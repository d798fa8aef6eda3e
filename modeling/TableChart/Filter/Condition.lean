import TableChart.Filter.Operator
import TableChart.Filter.Value
import TableChart.Table

/-!
# Filter conditions

A condition compares the cell of one column with a value.

* `Condition.render`    the condition as an expression, with its text value in double quotes;
* `Condition.holds`     whether a record meets it; no condition holds of an absent column, and an
                        ordering holds only between two numbers.
-/

namespace TableChart

structure Condition where
  column : String
  operator : Operator
  value : Value
deriving DecidableEq

namespace Condition

def render (c : Condition) : String :=
  let value :=
    match c.value with
    | .text s => "\"" ++ s ++ "\""
    | .number x => x.canonical
  c.column ++ " " ++ String.ofList c.operator.symbol ++ " " ++ value

def holdsOfCell (c : Condition) (cell : String) : Bool :=
  match c.operator with
  | .equal => cell == c.value.toText
  | .notEqual => cell != c.value.toText
  | op =>
    match readNumber? cell, c.value.toNumber? with
    | some x, some y => op.orders (.finite x) y
    | _, _ => false

def holds (c : Condition) (r : Record) : Bool :=
  match r.cell? c.column with
  | some cell => c.holdsOfCell cell
  | none => false

end Condition

end TableChart
