import TableChart.Decimal.Grouped

/-!
# Warnings

What a user is told about data that can be charted all the same.
-/

namespace TableChart

inductive Warning where
  | duplicateHeaders (headers : List String)
  | manyRows (rows cap : Nat)
  | missingValues
deriving DecidableEq

def Warning.message : Warning → String
  | duplicateHeaders headers => "Duplicate headers found: " ++ ", ".intercalate headers
  | manyRows rows cap =>
    "This file contains " ++ grouped rows ++ " rows. Files with more than " ++ grouped cap
      ++ " rows may affect performance. Consider filtering your data for better chart rendering"
      ++ " speed."
  | missingValues => "Warning: Some rows contain missing values"

end TableChart
