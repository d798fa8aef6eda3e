import TableChart.Csv.Cells
import TableChart.Fault
import TableChart.File.Name
import TableChart.Repeats
import TableChart.Table
import TableChart.Warning

/-!
# Datasets

A dataset is what one file holds: a table and what there is to warn about.

* `RowLimits`           how many data rows are charted at all, and how many without a warning;
* `Dataset.ofRows`      the first row gives the headers, every other row a record;
* `Dataset.ofFile`      the name is looked at first, then the bytes, then the number of rows;
* `Dataset.warnings`    repeated headers before the number of rows.
-/

namespace TableChart

structure RowLimits where
  cap : Nat := 50000
  warnAbove : Nat := 10000
deriving DecidableEq

structure Dataset where
  table : Table := {}
  repeatedHeaders : Option (List String) := none
  sizeWarning : Option Warning := none
deriving DecidableEq

namespace Dataset

/-! ## reading -/

def ofRows (limits : RowLimits) : List (List String) → Except Fault Dataset
  | [] => .ok {}
  | headers :: rows =>
    if limits.cap < rows.length then .error (.tooManyRows limits.cap)
    else .ok
      { table := Table.ofRows headers rows
        repeatedHeaders := if repeats headers = [] then none else some (repeats headers)
        sizeWarning :=
          if limits.warnAbove < rows.length then some (.manyRows rows.length limits.warnAbove)
          else none }

def ofFile (name : String) (bytes : List UInt8) (limits : RowLimits) : Except Fault Dataset :=
  if FileKind.ofName name = .csv then
    match csvCells? bytes with
    | some rows => ofRows limits rows
    | none => .error .invalidFile
  else .error .invalidFile

/-! ## views -/

def isEmpty (d : Dataset) : Bool := d.table.headers.isEmpty && d.table.records.isEmpty

def warnings (d : Dataset) : List Warning :=
  (d.repeatedHeaders.map .duplicateHeaders).toList ++ d.sizeWarning.toList

def primaryWarning (d : Dataset) : Option Warning := d.warnings.head?

end Dataset

end TableChart
