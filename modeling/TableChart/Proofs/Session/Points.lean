import Mathlib.Data.List.Forall2
import TableChart.Proofs.Session.Derived

/-!
# A point for every record

A chart skips a record whose value is no number.  In a session there is no such record: axes are
checked against the numeric columns of the whole table, and the records that pass the filter are
some of its records.

* `Record.Lacks`   a cell that is absent or empty;
* `Plots`          the point that a record must have;
* `Record.plots`   a record has it if its two cells are numbers or lacking.
-/

namespace TableChart

/-! ## cells -/

def Record.Lacks (r : Record) (column : String) : Prop :=
  r.cell? column = none ∨ r.cell? column = some ""

instance (r : Record) (column : String) : Decidable (r.Lacks column) :=
  inferInstanceAs (Decidable (_ ∨ _))

namespace Record
variable {r : Record} {column : String}

theorem lacks_iff : r.Lacks column ↔ r.cellOrEmpty column = "" := by
  unfold Lacks cellOrEmpty
  cases r.cell? column <;> simp

theorem cellOrEmpty_of_cell? {cell : String} (h : r.cell? column = some cell) :
    r.cellOrEmpty column = cell := by
  unfold cellOrEmpty
  rw [h]
  rfl

theorem cell_of_numericColumn {records : List Record} (h : isNumericColumn records column)
    (hr : r ∈ records) : r.Lacks column ∨ isNumber (r.cellOrEmpty column) :=
  ((isNumericColumn_iff.mp h).2 r hr).imp_left lacks_iff.mpr

end Record

theorem Table.isNumericColumn_of_mem {t : Table} {column : String}
    (h : column ∈ t.numericColumns) : isNumericColumn t.records column := by
  rw [Table.numericColumns_eq] at h
  exact (List.mem_filter.mp h).2

/-! ## points -/

/-- how a point stands for a record -/
structure Plots (x y : String) (r : Record) (p : Point) : Prop where
  value_of_lacks : r.Lacks y → p.value = .zero
  value_of_cell : ∀ cell, r.cell? y = some cell → cell ≠ "" → readNumber? cell = some p.value
  label_of_lacks : r.Lacks x → p.label = "0"
  label_of_cell : ∀ cell, r.cell? x = some cell → cell ≠ "" → p.label = cell
  label_isNumber : isNumber p.label

theorem isNumber_zero : isNumber "0" := by decide

theorem Record.plots {r : Record} {x y : String} (hx : r.Lacks x ∨ isNumber (r.cellOrEmpty x))
    (hy : r.Lacks y ∨ isNumber (r.cellOrEmpty y)) :
    ∃ p, r.point? x y = some p ∧ Plots x y r p := by
  have hv : ∃ v, r.value? y = some v ∧ (r.Lacks y → v = .zero) ∧
      ∀ cell, r.cell? y = some cell → cell ≠ "" → readNumber? cell = some v := by
    unfold value?
    by_cases ey : r.cellOrEmpty y = ""
    · refine ⟨.zero, if_pos ey, fun _ => rfl, fun cell hc ne => ?_⟩
      exact absurd ((cellOrEmpty_of_cell? hc).symm.trans ey) ne
    · have hn : isNumber (r.cellOrEmpty y) := hy.resolve_left fun l => ey (lacks_iff.mp l)
      obtain ⟨v, hv⟩ := Option.isSome_iff_exists.mp hn
      refine ⟨v, (if_neg ey).trans hv, fun l => absurd (lacks_iff.mp l) ey, fun cell hc _ => ?_⟩
      rw [← cellOrEmpty_of_cell? hc]
      exact hv
  obtain ⟨v, hv, hzero, hread⟩ := hv
  refine ⟨⟨r.label x, v⟩, ?_, hzero, hread, ?_, ?_, ?_⟩
  · unfold point?
    rw [hv]
    rfl
  · intro l
    exact if_pos (lacks_iff.mp l)
  · intro cell hc ne
    have e : r.cellOrEmpty x = cell := cellOrEmpty_of_cell? hc
    exact (if_neg (e ▸ ne)).trans e
  · show isNumber (if r.cellOrEmpty x = "" then "0" else r.cellOrEmpty x)
    split
    · exact isNumber_zero
    · rename_i ne
      exact hx.resolve_left fun l => ne (lacks_iff.mp l)

theorem forall₂_filterMap {α β : Type} {R : α → β → Prop} {f : α → Option β} {l : List α}
    (h : ∀ a ∈ l, ∃ b, f a = some b ∧ R a b) : List.Forall₂ R l (l.filterMap f) := by
  induction l with
  | nil => exact .nil
  | cons a as ih =>
    obtain ⟨b, hb, hab⟩ := h a List.mem_cons_self
    rw [List.filterMap_cons_some hb]
    exact .cons hab (ih fun c hc => h c (List.mem_cons_of_mem _ hc))

/-- over two numeric columns no record is skipped -/
theorem Series.ofRecords_plots {records : List Record} (all : List Record) {x y : String}
    (hsub : ∀ r ∈ records, r ∈ all) (hx : isNumericColumn all x) (hy : isNumericColumn all y) :
    List.Forall₂ (Plots x y) records (ofRecords records x y).points ∧
      (ofRecords records x y).missing = records.countP fun r => r.Lacks x ∨ r.Lacks y := by
  have hp : ∀ r ∈ records, ∃ p, r.point? x y = some p ∧ Plots x y r p := fun r hr =>
    Record.plots (Record.cell_of_numericColumn hx (hsub r hr))
      (Record.cell_of_numericColumn hy (hsub r hr))
  refine ⟨forall₂_filterMap hp, List.countP_congr fun r hr => ?_⟩
  obtain ⟨p, hpoint, _⟩ := hp r hr
  rw [hpoint]
  simp [Record.lacksCell, Record.lacks_iff]

/-! ## sessions -/

theorem Axes.check_ok {x y : String} {numeric : List String} {u : Unit}
    (h : (⟨some x, some y⟩ : Axes).check numeric = .ok u) : x ≠ y ∧ x ∈ numeric ∧ y ∈ numeric := by
  unfold Axes.check at h
  by_cases e : x = y
  · simp [e] at h
  · by_cases hm : x ∈ numeric ∧ y ∈ numeric
    · exact ⟨e, hm⟩
    · simp [e, hm] at h

namespace Session

theorem series_ok {s : Session} {x y : String} {q : Series} (haxes : s.axes = ⟨some x, some y⟩)
    (hs : s.series = .ok q) : x ∈ s.numeric ∧ y ∈ s.numeric ∧
      ∃ records, s.filteredRecords = .ok records ∧ q = Series.ofRecords records x y := by
  unfold series at hs
  rw [haxes] at hs
  cases hc : (⟨some x, some y⟩ : Axes).check s.numeric with
  | error f =>
    rw [hc] at hs
    cases hs
  | ok u =>
    obtain ⟨_, hx, hy⟩ := Axes.check_ok hc
    refine ⟨hx, hy, ?_⟩
    rw [hc] at hs
    cases hf : s.filteredRecords with
    | error f =>
      rw [hf] at hs
      cases hs
    | ok records =>
      rw [hf] at hs
      cases hs
      exact ⟨records, rfl, rfl⟩

/-- **No record is left out of a valid chart.**  After every run the chart of two selected axes
has a point for each record that passes the filter, in their order, and counts those of them that
lack a cell. -/
theorem every_record_plotted (events : List Event) (x y : String) (q : Series)
    (haxes : (Session.afterAll {} events).axes = ⟨some x, some y⟩)
    (hq : (Session.afterAll {} events).series = .ok q) :
    ∃ records, (Session.afterAll {} events).filteredRecords = .ok records ∧
      List.Forall₂ (Plots x y) records q.points ∧
      q.missing = records.countP fun r => r.Lacks x ∨ r.Lacks y := by
  have h : Derived (Session.afterAll {} events) := (derived_new 0).afterAll events
  generalize Session.afterAll {} events = s at *
  obtain ⟨hx, hy, records, hr, rfl⟩ := series_ok haxes hq
  rw [h.numeric_eq] at hx hy
  obtain ⟨keep, hk⟩ := filteredRecords_of_accepted h.accepted
  have e : records = s.table.records.filter keep := by
    rw [hr] at hk
    cases hk
    rfl
  refine ⟨records, hr, Series.ofRecords_plots s.table.records (fun r hm => ?_)
    (Table.isNumericColumn_of_mem hx) (Table.isNumericColumn_of_mem hy)⟩
  rw [e] at hm
  exact (List.mem_filter.mp hm).1

/-- an empty cell and an absent one -/
theorem every_record_plotted_with_gaps :
    let data : Dataset := { table := ⟨["x", "y"],
      [⟨[("x", "1"), ("y", "5e-324")]⟩, ⟨[("x", " 3 "), ("y", "")]⟩, ⟨[("y", "0")]⟩]⟩ }
    let s := Session.afterAll {} [.fileSelected "a.csv", .dataLoaded 1 data]
    let q : Series := ⟨[⟨"1", ⟨false, 1, by decide⟩⟩, ⟨" 3 ", .zero⟩, ⟨"0", .zero⟩], 2⟩
    s.axes = ⟨some "x", some "y"⟩ ∧ s.series = .ok q ∧
      ∃ records, s.filteredRecords = .ok records ∧ List.Forall₂ (Plots "x" "y") records q.points ∧
        q.missing = records.countP fun r => r.Lacks "x" ∨ r.Lacks "y" := by
  intro data s q
  have hn : data.table.numericColumns = ["x", "y"] := by
    rw [Table.numericColumns_eq]
    decide +kernel
  have hs : s = showDataset (Session.after {} (.fileSelected "a.csv")) data := rfl
  have haxes : s.axes = ⟨some "x", some "y"⟩ := by
    rw [hs, showDataset, axes_checked, hn]
    rfl
  have hq : s.series = .ok q := by
    rw [hs, showDataset, series_checked, hn]
    show Except.ok (Series.ofRecords data.table.records "x" "y") = _
    decide +kernel
  exact ⟨haxes, hq, every_record_plotted _ "x" "y" q haxes hq⟩

end Session

end TableChart
