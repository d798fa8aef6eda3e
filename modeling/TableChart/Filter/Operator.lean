import TableChart.Binary64.Basic

/-!
# Comparison operators

`Operator.all` lists the operators as they are looked for in an expression: the two-character ones
stand before the ones that begin them.
-/

namespace TableChart

inductive Operator where
  | greaterThan
  | lessThan
  | greaterOrEqual
  | lessOrEqual
  | equal
  | notEqual
deriving DecidableEq

namespace Operator

def symbol : Operator → List Char
  | greaterThan => ['>']
  | lessThan => ['<']
  | greaterOrEqual => ['>', '=']
  | lessOrEqual => ['<', '=']
  | equal => ['=', '=']
  | notEqual => ['!', '=']

def all : List Operator :=
  [greaterOrEqual, lessOrEqual, notEqual, equal, greaterThan, lessThan]

/-- ordering operators compare numbers, the other two compare texts -/
def isNumeric : Operator → Bool
  | equal | notEqual => false
  | _ => true

/-- the ordering of two numbers; the operators on texts order nothing -/
def orders : Operator → Binary64 → Binary64 → Bool
  | greaterThan, x, y => y.lt x
  | lessThan, x, y => x.lt y
  | greaterOrEqual, x, y => y.le x
  | lessOrEqual, x, y => x.le y
  | equal, _, _ => false
  | notEqual, _, _ => false

end Operator

end TableChart
