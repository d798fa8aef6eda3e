import TableChart.Decimal.Layout
import TableChart.Decimal.Numeral

/-!
# Filter values

A value is a number or a text.

* `Value.ofToken`     what a token means: quoted text is text, a numeral is a number, and anything
                      else is text as it stands;
* `Value.toText`      the text that `==` and `!=` compare a cell with;
* `Value.toNumber?`   the number that the ordering operators compare a cell with.
-/

namespace TableChart

inductive Value where
  | text (s : String)
  | number (x : Binary64)
deriving DecidableEq

namespace Value

def isQuote (c : Char) : Bool := c == '"' || c == '\x27'

/-- the text between two equal quotes; a single quote encloses nothing -/
def quoted? : List Char → Option (List Char)
  | [] => none
  | q :: cs => if isQuote q ∧ (q :: cs).getLast? = some q then some cs.dropLast else none

def ofToken (token : List Char) : Value :=
  let t := Text.trim token
  match quoted? t with
  | some inner => text (String.ofList inner)
  | none =>
    match readNumber? (String.ofList t) with
    | some x => number (.finite x)
    | none => text (String.ofList t)

def toText : Value → String
  | text s => s
  | number x => x.canonical

def toNumber? : Value → Option Binary64
  | text s => (readNumber? s).map .finite
  | number x => some x

end Value

end TableChart
