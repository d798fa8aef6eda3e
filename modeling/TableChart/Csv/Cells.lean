import TableChart.Csv.Rows

/-!
# Cells of a comma-separated file

`csvCells?` decodes every field as UTF-8 by itself and drops the rows that hold one empty cell and
nothing else.  A file with an undecodable field has no cells.
-/

namespace TableChart

def decodeField? (bytes : List UInt8) : Option String := String.fromUTF8? bytes.toByteArray

def decodeRow? (row : List (List UInt8)) : Option (List String) := row.mapM decodeField?

def csvCells? (bytes : List UInt8) : Option (List (List String)) :=
  ((csvRows bytes).mapM decodeRow?).map fun rows => rows.filter (· ≠ [""])

end TableChart
