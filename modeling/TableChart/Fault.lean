import TableChart.Decimal.Grouped

/-!
# Faults

Why a request is refused, and the text that says so.
-/

namespace TableChart

inductive Fault where
  | invalidFile
  | tooManyRows (cap : Nat)
  | filterRejected (reason : String)
  | sameAxes
  | nonNumericAxis
  | unreadable (reason : String)
  | invalidArgument (name reason : String)
deriving DecidableEq

namespace Fault

def message : Fault → String
  | invalidFile => "Failed to parse CSV file"
  | tooManyRows cap =>
    "This file contains more than " ++ grouped cap ++ " rows. For performance reasons, please use"
      ++ " a smaller dataset or filter your data before uploading."
  | filterRejected reason => reason
  | sameAxes => "X and Y axes must be different columns"
  | nonNumericAxis => "Selected columns must be numeric"
  | unreadable reason => "IO error: " ++ reason
  | invalidArgument name reason =>
    "Invalid value for command-line argument '" ++ name ++ "': " ++ reason

/-! ## kinds -/

inductive Kind where
  | invalidFile
  | fileTooLarge
  | filter
  | axes
  | reading
  | other
deriving DecidableEq

def kind : Fault → Kind
  | invalidFile => .invalidFile
  | tooManyRows _ => .fileTooLarge
  | filterRejected _ => .filter
  | sameAxes | nonNumericAxis => .axes
  | unreadable _ => .reading
  | invalidArgument _ _ => .other

end Fault

end TableChart
