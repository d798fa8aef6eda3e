import TableChart.Filter.Condition
import TableChart.Fault

/-!
# Filter expressions

An expression is a column name, an operator and a value, with blanks between them as one likes:
`age >= 25`, `city != 'New York'`.

* `isWord`            the characters of a column name;
* `split?`            the three parts of a text for one operator; the value fills a single line;
* `Condition.read`    the condition of the first operator, in `Operator.all`, that splits
                      the expression;
* `selectRecords`     the records that meet an expression, all of them for a blank one.
-/

namespace TableChart

inductive FilterFault where
  | empty
  | malformed (expression : String)
deriving DecidableEq

namespace FilterFault

def message : FilterFault → String
  | empty => "Filter expression cannot be empty"
  | malformed expression => "Invalid filter expression: " ++ expression

def toFault (f : FilterFault) : Fault := .filterRejected f.message

end FilterFault

/-! ## reading -/

def isWord (c : Char) : Bool := c.isAlphanum || c == '_'

def split? (op : Operator) (cs : List Char) : Option Condition := do
  let column := cs.takeWhile isWord
  let rest ← op.symbol.isPrefixOf? ((cs.dropWhile isWord).dropWhile Text.isBlank)
  let value := rest.dropWhile Text.isBlank
  if column ≠ [] ∧ value ≠ [] ∧ '\n' ∉ value then
    some ⟨String.ofList column, op, Value.ofToken value⟩
  else none

def isBlankText (s : String) : Bool := s.toList.all Text.isBlank

def Condition.read (expression : String) : Except FilterFault Condition :=
  if isBlankText expression then .error .empty
  else
    match Operator.all.findSome? fun op => split? op (Text.trim expression.toList) with
    | some c => .ok c
    | none => .error (.malformed expression)

/-- what is wrong with an expression; a blank one asks for nothing -/
def filterFault? (expression : String) : Option FilterFault :=
  if isBlankText expression then none
  else
    match Condition.read expression with
    | .ok _ => none
    | .error f => some f

/-! ## filtering -/

def selectRecords (records : List Record) (expression : String) :
    Except FilterFault (List Record) :=
  if isBlankText expression then .ok records
  else (Condition.read expression).map fun c => records.filter c.holds

end TableChart
