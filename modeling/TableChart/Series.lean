import TableChart.Decimal.Numeral
import TableChart.Table
import TableChart.Warning

/-!
# Series

A series has a point for every record that can be charted, in the order of the records.

* `Record.point?`      an empty value is charted as zero and an empty label as `0`; a record whose
                       value is no number has no point;
* `Series.ofRecords`   the points, and how many of them stand for an empty cell.
-/

namespace TableChart

structure Point where
  label : String
  value : Finite64
deriving DecidableEq

structure Series where
  points : List Point := []
  missing : Nat := 0
deriving DecidableEq

namespace Record

def value? (r : Record) (y : String) : Option Finite64 :=
  let cell := r.cellOrEmpty y
  if cell = "" then some .zero else readNumber? cell

def label (r : Record) (x : String) : String :=
  let cell := r.cellOrEmpty x
  if cell = "" then "0" else cell

def point? (r : Record) (x y : String) : Option Point :=
  (r.value? y).map fun value => ⟨r.label x, value⟩

def lacksCell (r : Record) (x y : String) : Bool :=
  r.cellOrEmpty x == "" || r.cellOrEmpty y == ""

end Record

namespace Series

def ofRecords (records : List Record) (x y : String) : Series where
  points := records.filterMap (·.point? x y)
  missing := records.countP fun r => r.lacksCell x y && (r.point? x y).isSome

def warning (s : Series) : Option Warning := if 0 < s.missing then some .missingValues else none

end Series

end TableChart
