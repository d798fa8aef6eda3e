import TableChart.Proofs.Report.Lines
import TableChart.Proofs.Session.Shown

/-!
# The stages of a report

A report loads the file, lets the command line override the proposed axes, applies the filter and
draws the chart.  Each stage may stop it, and hands on a session that shows the dataset.

* `shows_loaded`, `shows_overrideAxes`   what a stage hands on;
* `not_selects_of_overrideAxes`          overriding axes are refused only if they must be;
* `ofFile_of_selects`                    the drawing if the chosen axes select two columns;
* `stops_of_not_selects`                 there is no chart if they do not.
-/

namespace TableChart

/-! ## stages -/

namespace Report
open Session
variable {a : Arguments} {d : Dataset} {bytes : List UInt8} {s t : Session}

theorem loaded_eq_finishLoad (a : Arguments) (bytes : List UInt8) :
    loaded a bytes = (beginLoad {} (nameOf a.path)).finishLoad 1
      (Dataset.ofFile (nameOf a.path) bytes a.limits) := rfl

theorem loadError_loaded {f : Fault}
    (h : Dataset.ofFile (nameOf a.path) bytes a.limits = .error f) :
    (loaded a bytes).loadError = some f.message := by
  rw [loaded_eq_finishLoad, h]
  rfl

section
variable (h : Dataset.ofFile (nameOf a.path) bytes a.limits = .ok d)
include h

theorem loaded_eq_showDataset :
    loaded a bytes = showDataset (beginLoad {} (nameOf a.path)) d := by
  rw [loaded_eq_finishLoad, h]
  exact after_dataLoaded (beginLoad {} (nameOf a.path)) d

theorem loadError_loaded_eq_none : (loaded a bytes).loadError = none := by
  rw [loaded_eq_showDataset h]
  exact loadError_checked _

theorem shows_loaded : Shows d (Axes.proposed d.table.numericColumns) "" (loaded a bytes) := by
  rw [loaded_eq_showDataset h]
  exact shows_showDataset _ d

end

theorem shows_overrideAxes (h : Shows d (Axes.proposed d.table.numericColumns) "" s)
    (ht : overrideAxes a s = .ok t) : Shows d (a.chosenAxes d.table.numericColumns) "" t := by
  unfold overrideAxes at ht
  by_cases proposed : a.x = none ∧ a.y = none
  · rw [if_pos proposed] at ht
    cases ht
    unfold Arguments.chosenAxes
    rw [proposed.1, proposed.2]
    exact h
  · rw [if_neg proposed, h.axes_eq] at ht
    dsimp only at ht
    split at ht
    · cases ht
    · split at ht
      · cases ht
      · cases ht
        exact h.axesSelected _

/-- overriding axes are refused only if they are no two different numeric columns -/
theorem not_selects_of_overrideAxes
    (h : Shows d (Axes.proposed d.table.numericColumns) "" s) {stop : Stop}
    (hs : overrideAxes a s = .error stop) (x y : String) :
    ¬ (a.chosenAxes d.table.numericColumns).Selects d.table.numericColumns x y := by
  intro sel
  unfold overrideAxes at hs
  split at hs
  · cases hs
  · rw [h.axes_eq, h.table_eq] at hs
    dsimp only at hs
    split at hs
    · -- a chosen column that the table does not have
      rename_i name found
      have absent : name ∉ d.table.headers := by simpa using List.find?_some found
      have chosen := List.mem_of_find?_eq_some found
      have eq := sel.eq
      unfold Arguments.chosenAxes at eq
      rw [(Axes.mk.inj eq).1, (Axes.mk.inj eq).2] at chosen
      rcases List.mem_pair.mp chosen with rfl | rfl
      · exact absent (Table.mem_headers_of_numeric sel.x_numeric)
      · exact absent (Table.mem_headers_of_numeric sel.y_numeric)
    · split at hs
      · -- columns of the table that the axis check refuses
        rename_i message refused
        have shown := h.axesSelected (a.chosenAxes d.table.numericColumns)
        have none := shown.axisError_eq_none sel
        exact absurd (none.symm.trans refused) nofun
      · cases hs

theorem shows_applyFilter {axes : Axes} (h : Shows d axes "" s)
    (accepted : FilterAccepted a.filter) : Shows d axes (a.filter.getD "") (applyFilter a s) := by
  unfold applyFilter
  cases given : a.filter with
  | none => exact h
  | some expression =>
    obtain ⟨c, hc⟩ := accepted expression given
    exact h.filterSubmitted hc

section
variable {axes : Axes} {filter : String} (h : Shows d axes filter s)
include h

theorem chart_of_selects {x y : String} (sel : axes.Selects d.table.numericColumns x y)
    {filtered : List Record} (hf : s.filteredRecords = .ok filtered) (before : List Line)
    (limit : Nat) :
    let q := Series.ofRecords filtered x y
    chart before limit s
      = drawn (before ++ summaryLines d.table filtered q) (chartLines? x y q.points limit) := by
  intro q
  have series : s.series = .ok q := h.series_of_selects sel hf
  have gaps : s.chartWarning = q.warning.map (·.message) := by
    rw [h.derived.chartWarning_eq, series]
    rfl
  have numeric := h.numeric_eq
  obtain ⟨rfl, -, -, -⟩ := sel
  unfold chart summaryLines
  rw [h.axes_eq, series, hf, h.table_eq, numeric, gaps]
  simp [columnLines, Option.toList_map, Function.comp_def]

theorem chart_of_not_selects (not : ∀ x y, ¬ axes.Selects d.table.numericColumns x y)
    (before : List Line) (limit : Nat) :
    ∃ stop, chart before limit s = stopped (before ++ (columnLines d.table).map .out) stop := by
  unfold chart
  rw [h.axes_eq, h.table_eq, h.numeric_eq]
  match axes with
  | ⟨none, _⟩ | ⟨some _, none⟩ => exact ⟨_, rfl⟩
  | ⟨some x, some y⟩ =>
    cases check : (⟨some x, some y⟩ : Axes).check d.table.numericColumns with
    | ok u => exact absurd (Axes.selects_of_check check) (not x y)
    | error f =>
      rw [← h.axes_eq, ← h.numeric_eq] at check
      rw [series_of_check_error check]
      exact ⟨_, rfl⟩

end

/-! ## reports -/

theorem stops_unreadable (a : Arguments) (f : Fault) : Stops (ofFile a (.error f)) :=
  stops_stopped_nil (.fault f)

theorem stops_of_load_error {f : Fault}
    (h : Dataset.ofFile (nameOf a.path) bytes a.limits = .error f) :
    Stops (ofFile a (.ok bytes)) := by
  have refused : ofFile a (.ok bytes) = stopped [] (.shown f.message) := by
    unfold ofFile
    dsimp only
    rw [loadError_loaded h]
  rw [refused]
  exact stops_stopped_nil (.shown f.message)

section
variable (clean : (loaded a bytes).loadError = none)
include clean

theorem ofFile_of_refused {stop : Stop} (refused : overrideAxes a (loaded a bytes) = .error stop) :
    ofFile a (.ok bytes) = stopped (warningLines (loaded a bytes)) stop := by
  unfold ofFile
  dsimp only
  rw [clean, refused]
  rfl

theorem ofFile_of_overridden (overridden : overrideAxes a (loaded a bytes) = .ok t) :
    ofFile a (.ok bytes)
      = chart (warningLines (loaded a bytes)) a.limit (applyFilter a t) := by
  unfold ofFile
  dsimp only
  rw [clean, overridden]
  rfl

end

section
variable (h : Dataset.ofFile (nameOf a.path) bytes a.limits = .ok d)
  (accepted : FilterAccepted a.filter)
include h accepted

theorem ofFile_of_selects {x y : String}
    (sel : (a.chosenAxes d.table.numericColumns).Selects d.table.numericColumns x y)
    {filtered : List Record} (hf : Filtered d.table.records a.filter filtered) :
    let q := Series.ofRecords filtered x y
    ofFile a (.ok bytes)
      = drawn (warningLines (loaded a bytes) ++ summaryLines d.table filtered q)
          (chartLines? x y q.points a.limit) := by
  have clean := loadError_loaded_eq_none h
  cases ht : overrideAxes a (loaded a bytes) with
  | error stop => exact absurd sel (not_selects_of_overrideAxes (shows_loaded h) ht x y)
  | ok t =>
    have shown := shows_applyFilter (shows_overrideAxes (shows_loaded h) ht) accepted
    obtain ⟨selected, hs, hf'⟩ := shown.filteredRecords_eq accepted rfl
    cases hf.unique hf'
    rw [ofFile_of_overridden clean ht]
    exact chart_of_selects shown sel hs _ a.limit

theorem stops_of_not_selects
    (not : ∀ x y, ¬ (a.chosenAxes d.table.numericColumns).Selects d.table.numericColumns x y) :
    Stops (ofFile a (.ok bytes)) := by
  have clean := loadError_loaded_eq_none h
  have warned := errors_warningLines (loaded a bytes)
  have silent := outputs_warningLines (loaded a bytes)
  cases ht : overrideAxes a (loaded a bytes) with
  | error stop =>
    rw [ofFile_of_refused clean ht]
    exact stops_stopped _ _ stop warned (.inl silent)
  | ok t =>
    have shown := shows_applyFilter (shows_overrideAxes (shows_loaded h) ht) accepted
    obtain ⟨stop, hc⟩ :=
      chart_of_not_selects shown not (warningLines (loaded a bytes)) a.limit
    rw [ofFile_of_overridden clean ht, hc]
    -- the columns are said after the warning, on the other channel
    refine stops_stopped _ (loaded a bytes).warning stop ?_ (.inr ⟨d.table, ?_⟩)
    · rw [errors_append, warned, errors_map_out, List.append_nil]
    · rw [outputs_append, silent, outputs_map_out]
      rfl

end

end Report

end TableChart
