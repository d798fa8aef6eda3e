import TableChart.Proofs.Session.Derived
import TableChart.Proofs.Table.Loaded
import TableChart.Proofs.Text.Utf8

/-!
# Axes proposed for a loaded dataset

A dataset is shown with its first two numeric columns as axes.  A repeated header is a numeric column
at each of its places, so the two may be one column twice, and such axes are refused.

* `Axes.check_proposed_iff`          when proposed axes pass their own check;
* `Session.Charted`                  the axes pass, there is no axis message and the chart has a series;
* `Session.charted_showDataset_iff`  when a dataset is charted as soon as it is loaded;
* `Session.charted_after_load`       the same of a file: always, if no header is repeated.
-/

namespace TableChart

/-! ## columns -/

/-- the first two entries are one column -/
def BeginsTwice (numeric : List String) : Prop := ∃ column rest, numeric = column :: column :: rest

theorem not_beginsTwice_of_nodup {numeric : List String} (h : numeric.Nodup) :
    ¬ BeginsTwice numeric := by
  rintro ⟨column, rest, rfl⟩
  exact (List.nodup_cons.mp h).1 List.mem_cons_self

namespace Axes

theorem check_proposed_iff (numeric : List String) :
    (proposed numeric).check numeric = .ok () ↔ ¬ BeginsTwice numeric := by
  match numeric with
  | [] | [_] => exact ⟨nofun, fun _ => rfl⟩
  | x :: y :: rest =>
    have check : (proposed (x :: y :: rest)).check (x :: y :: rest) =
        if x = y then .error .sameAxes else .ok () := by
      simp [proposed, Axes.check]
    rw [check]
    by_cases same : x = y
    · subst same
      simp [BeginsTwice]
    · rw [if_neg same]
      refine ⟨fun _ => ?_, fun _ => rfl⟩
      rintro ⟨column, rest', h⟩
      cases h
      exact same rfl

theorem check_proposed_error {numeric : List String} (h : BeginsTwice numeric) :
    (proposed numeric).check numeric = .error .sameAxes := by
  obtain ⟨column, rest, rfl⟩ := h
  simp [proposed, Axes.check]

/-- two different columns leave room for two entries -/
theorem isSome_proposed {numeric : List String} {a b : String} (ha : a ∈ numeric) (hb : b ∈ numeric)
    (h : a ≠ b) : (proposed numeric).x.isSome ∧ (proposed numeric).y.isSome := by
  match numeric with
  | [] => exact absurd ha List.not_mem_nil
  | [c] =>
    rw [List.mem_singleton] at ha hb
    exact absurd (ha.trans hb.symm) h
  | _ :: _ :: _ => exact ⟨rfl, rfl⟩

end Axes

/-! ## sessions -/

namespace Session

structure Charted (s : Session) : Prop where
  axes_pass : s.axes.check s.numeric = .ok ()
  no_message : s.axisError = none
  has_series : ∃ q, s.series = .ok q

section
variable {s : Session}

theorem series_of_check_error {f : Fault} (h : s.axes.check s.numeric = .error f) :
    s.series = .error f := by
  unfold series
  rw [h]
  rfl

/-- the axes alone decide whether there is a chart -/
theorem Derived.charted_iff (h : Derived s) : Charted s ↔ s.axes.check s.numeric = .ok () := by
  refine ⟨Charted.axes_pass, fun pass => ?_⟩
  have drawn : ∃ q, s.series = .ok q := by
    obtain ⟨keep, hk⟩ := filteredRecords_of_accepted h.accepted
    unfold series
    rw [pass, hk]
    split
    · exact ⟨_, rfl⟩
    · exact ⟨_, rfl⟩
  exact ⟨pass, h.axisError_eq_none_iff.mpr drawn, drawn⟩

end

/-! ## loading -/

theorem after_dataLoaded (s : Session) (d : Dataset) :
    s.after (.dataLoaded s.generation d) = s.showDataset d := if_pos rfl

section
variable (s : Session) (d : Dataset)

theorem derived_showDataset : Derived (s.showDataset d) := derived_checked rfl rfl

theorem numeric_showDataset : (s.showDataset d).numeric = d.table.numericColumns := numeric_checked _

theorem axes_showDataset : (s.showDataset d).axes = Axes.proposed d.table.numericColumns :=
  axes_checked _

theorem charted_showDataset_iff :
    Charted (s.showDataset d) ↔ ¬ BeginsTwice d.table.numericColumns := by
  rw [(derived_showDataset s d).charted_iff, axes_showDataset, numeric_showDataset,
    Axes.check_proposed_iff]

theorem axisError_showDataset (h : BeginsTwice d.table.numericColumns) :
    (s.showDataset d).axisError = some Fault.sameAxes.message := by
  have refused : (s.showDataset d).series = .error .sameAxes := by
    apply series_of_check_error
    rw [axes_showDataset, numeric_showDataset]
    exact Axes.check_proposed_error h
  exact (((derived_showDataset s d).series_error_iff _).mp refused).2

end

end Session

/-! ## files -/

theorem Dataset.nodup_numericColumns {name : String} {bytes : List UInt8} {limits : RowLimits}
    {d : Dataset} (h : ofFile name bytes limits = .ok d) (unwarned : d.repeatedHeaders = none) :
    d.table.numericColumns.Nodup := by
  rw [Table.numericColumns_eq]
  exact ((nodup_headers_iff h).mp unwarned).filter _

/-- **A loaded file is charted at once, unless its first two numeric columns are one.**  Then the
axes are refused as the same; this takes a header that was warned about.  Two different numeric
columns always fill both axes. -/
theorem Session.charted_after_load (s : Session) {name : String} {bytes : List UInt8}
    {limits : RowLimits} {d : Dataset} (h : Dataset.ofFile name bytes limits = .ok d) :
    let t := s.after (.dataLoaded s.generation d)
    (Charted t ↔ ¬ BeginsTwice d.table.numericColumns) ∧
    (BeginsTwice d.table.numericColumns →
      t.axisError = some "X and Y axes must be different columns") ∧
    (d.repeatedHeaders = none → Charted t) ∧
    ∀ a ∈ d.table.numericColumns, ∀ b ∈ d.table.numericColumns, a ≠ b →
      t.axes.x.isSome ∧ t.axes.y.isSome := by
  intro t
  have shown : t = s.showDataset d := s.after_dataLoaded d
  rw [shown]
  refine ⟨s.charted_showDataset_iff d, s.axisError_showDataset d, fun unwarned => ?_, ?_⟩
  · exact (s.charted_showDataset_iff d).mpr
      (not_beginsTwice_of_nodup (Dataset.nodup_numericColumns h unwarned))
  · intro a ha b hb different
    rw [s.axes_showDataset d]
    exact Axes.isSome_proposed ha hb different

/-! ### two files -/

def twoColumns : Dataset where
  table := ⟨["a", "b"], [⟨[("a", "1"), ("b", "3")]⟩]⟩

def repeatedColumn : Dataset where
  table := ⟨["a", "a", "b"], [⟨[("a", "1"), ("a", "2"), ("b", "3")]⟩]⟩
  repeatedHeaders := some ["a"]

theorem Session.charted_after_load_two_columns :
    Dataset.ofFile "a.csv" (utf8 "a,b\n1,3\n") {} = .ok twoColumns ∧
      Charted (Session.after {} (.dataLoaded 0 twoColumns)) := by
  have loaded : Dataset.ofFile "a.csv" (utf8 "a,b\n1,3\n") {} = .ok twoColumns := rfl
  exact ⟨loaded, (charted_after_load {} loaded).2.2.1 rfl⟩

/-- there are two numeric columns, yet the first is proposed twice, and refused -/
theorem Session.repeated_column_refused :
    Dataset.ofFile "a.csv" (utf8 "a,a,b\n1,2,3\n") {} = .ok repeatedColumn ∧
      repeatedColumn.table.numericColumns = ["a", "a", "b"] ∧
      (Session.after {} (.dataLoaded 0 repeatedColumn)).axes = ⟨some "a", some "a"⟩ ∧
      (Session.after {} (.dataLoaded 0 repeatedColumn)).axisError
        = some "X and Y axes must be different columns" ∧
      ¬ Charted (Session.after {} (.dataLoaded 0 repeatedColumn)) := by
  have numeric : repeatedColumn.table.numericColumns = ["a", "a", "b"] := by
    rw [Table.numericColumns_eq]
    decide +kernel
  have twice : BeginsTwice repeatedColumn.table.numericColumns := ⟨"a", ["b"], numeric⟩
  refine ⟨rfl, numeric, ?_, axisError_showDataset {} repeatedColumn twice, fun charted => ?_⟩
  · exact (axes_showDataset {} repeatedColumn).trans (congrArg Axes.proposed numeric)
  · exact (charted_showDataset_iff {} repeatedColumn).mp charted twice

end TableChart
