import TableChart.Csv.Rows

/-!
# Rows without quotes

`plainRows` cuts at every line break, drops what is empty, and cuts the rest at every comma.
-/

namespace TableChart

def plainRows (bytes : List UInt8) : List (List (List UInt8)) :=
  ((bytes.splitOnP isBreak).filter (· ≠ [])).map (List.splitOn commaByte)

end TableChart
