import TableChart.Proofs.CommandLine.Kept
import TableChart.Proofs.Session.Points
import TableChart.Proofs.Session.Proposed
import TableChart.Proofs.Session.Step
import TableChart.Report.Basic

/-!
# A dataset that is shown

What happens to a session between the loading of a file and its chart: axes and a filter from the
command line are put in force.

* `Axes.Selects`               two different columns that are numeric;
* `Arguments.chosenAxes`       the axes of the command line, a missing one as proposed;
* `Filtered`                   the records that meet the expression of a command line, if any;
* `Session.filter_in_force`    an expression that can be read is never refused;
* `Session.Shows`              a dataset with its axes and a filter, and nothing out of date.
-/

namespace TableChart

/-! ## axes -/

structure Axes.Selects (axes : Axes) (numeric : List String) (x y : String) : Prop where
  eq : axes = ⟨some x, some y⟩
  different : x ≠ y
  x_numeric : x ∈ numeric
  y_numeric : y ∈ numeric

def Arguments.chosenAxes (a : Arguments) (numeric : List String) : Axes :=
  ⟨a.x <|> (Axes.proposed numeric).x, a.y <|> (Axes.proposed numeric).y⟩

namespace Axes

theorem Selects.check_eq_ok {axes : Axes} {numeric : List String} {x y : String}
    (h : axes.Selects numeric x y) : axes.check numeric = .ok () := by
  obtain ⟨rfl, different, hx, hy⟩ := h
  exact (if_neg different).trans (if_pos ⟨hx, hy⟩)

theorem selects_of_check {x y : String} {numeric : List String}
    (h : (⟨some x, some y⟩ : Axes).check numeric = .ok ()) :
    (⟨some x, some y⟩ : Axes).Selects numeric x y :=
  let ⟨different, hx, hy⟩ := check_ok h
  ⟨rfl, different, hx, hy⟩

end Axes

theorem Table.mem_headers_of_numeric {t : Table} {column : String} (h : column ∈ t.numericColumns) :
    column ∈ t.headers := by
  rw [Table.numericColumns_eq] at h
  exact (List.mem_filter.mp h).1

/-! ## filters -/

/-- without an expression every record counts, else the records that meet its condition -/
inductive Filtered (records : List Record) : Option String → List Record → Prop
  | all : Filtered records none records
  | met {expression : String} {c : Condition} (h : Condition.read expression = .ok c) :
    Filtered records (some expression) (records.filter c.holds)

theorem Filtered.mem {records filtered : List Record} {filter : Option String}
    (h : Filtered records filter filtered) : ∀ r ∈ filtered, r ∈ records := by
  intro r hr
  cases h with
  | all => exact hr
  | met => exact (List.mem_filter.mp hr).1

theorem Filtered.unique {records l l' : List Record} {filter : Option String}
    (h : Filtered records filter l) (h' : Filtered records filter l') : l = l' := by
  cases h with
  | all =>
    cases h'
    rfl
  | met hc =>
    cases h' with
    | met hc' =>
      cases hc.symm.trans hc'
      rfl

/-- no expression has the same effect as an empty one -/
theorem selectRecords_of_filterAccepted {filter : Option String} (h : FilterAccepted filter)
    (records : List Record) :
    ∃ filtered, selectRecords records (filter.getD "") = .ok filtered ∧
      Filtered records filter filtered := by
  cases filter with
  | none => exact ⟨records, rfl, .all⟩
  | some expression =>
    obtain ⟨c, hc⟩ := h expression rfl
    exact ⟨records.filter c.holds, selectRecords_of_read hc records, .met hc⟩

/-! ## sessions -/

namespace Session

theorem filterError_checked (s : Session) : s.checked.filterError = s.filterError := by
  rw [checked_eq]

section
variable (s : Session) {expression : String} {c : Condition}
  (h : Condition.read expression = .ok c)
include h

theorem after_filterSubmitted :
    s.after (.filterSubmitted expression)
      = checked { s with filter := expression, filterError := none } :=
  s.after_accepted ((filterFault?_eq_none_iff _).mpr (.inr ⟨c, h⟩))

/-- what can be read is never refused by a session -/
theorem filter_in_force :
    (s.after (.filterSubmitted expression)).filter = expression ∧
      (s.after (.filterSubmitted expression)).filterError = none := by
  rw [after_filterSubmitted s h]
  exact ⟨filter_checked _, filterError_checked _⟩

end

structure Shows (d : Dataset) (axes : Axes) (filter : String) (s : Session) : Prop where
  derived : Derived s
  table_eq : s.table = d.table
  axes_eq : s.axes = axes
  filter_eq : s.filter = filter

theorem shows_showDataset (s : Session) (d : Dataset) :
    Shows d (Axes.proposed d.table.numericColumns) "" (s.showDataset d) :=
  ⟨derived_showDataset s d, table_checked _, axes_checked _, filter_checked _⟩

namespace Shows
variable {d : Dataset} {axes : Axes} {filter : String} {s : Session} (h : Shows d axes filter s)
include h

theorem numeric_eq : s.numeric = d.table.numericColumns := by
  rw [h.derived.numeric_eq, h.table_eq]

theorem axesSelected (axes' : Axes) : Shows d axes' filter (s.after (.axesSelected axes')) where
  derived := h.derived.after _
  table_eq := (table_checked _).trans h.table_eq
  axes_eq := axes_checked _
  filter_eq := (filter_checked _).trans h.filter_eq

theorem filterSubmitted {expression : String} {c : Condition}
    (hc : Condition.read expression = .ok c) :
    Shows d axes expression (s.after (.filterSubmitted expression)) where
  derived := h.derived.after _
  table_eq := by
    rw [after_filterSubmitted s hc, table_checked]
    exact h.table_eq
  axes_eq := by
    rw [after_filterSubmitted s hc, axes_checked]
    exact h.axes_eq
  filter_eq := (filter_in_force s hc).1

theorem axisError_eq_none {x y : String} (sel : axes.Selects d.table.numericColumns x y) :
    s.axisError = none := by
  refine (h.derived.charted_iff.mpr ?_).no_message
  rw [h.axes_eq, h.numeric_eq]
  exact sel.check_eq_ok

theorem series_of_selects {x y : String} (sel : axes.Selects d.table.numericColumns x y)
    {filtered : List Record} (hf : s.filteredRecords = .ok filtered) :
    s.series = .ok (Series.ofRecords filtered x y) := by
  have pass := sel.check_eq_ok
  obtain ⟨rfl, -, -, -⟩ := sel
  unfold series
  rw [h.axes_eq, h.numeric_eq, pass, hf]
  rfl

theorem filteredRecords_eq {a : Arguments} (accepted : FilterAccepted a.filter)
    (given : filter = a.filter.getD "") :
    ∃ filtered, s.filteredRecords = .ok filtered ∧ Filtered d.table.records a.filter filtered := by
  obtain ⟨filtered, hs, hf⟩ := selectRecords_of_filterAccepted accepted d.table.records
  refine ⟨filtered, ?_, hf⟩
  unfold filteredRecords
  rw [h.table_eq, h.filter_eq, given, hs]
  rfl

end Shows

end Session

end TableChart
