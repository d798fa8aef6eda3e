/-!
# Counts

`readCount` reads a whole number below `2^64`: ASCII digits after an optional plus.  The first
character that cannot be read decides what is wrong.
-/

namespace TableChart

inductive CountFault where
  | empty
  | invalidDigit
  | tooLarge
deriving DecidableEq

def CountFault.message : CountFault → String
  | empty => "cannot parse integer from empty string"
  | invalidDigit => "invalid digit found in string"
  | tooLarge => "number too large to fit in target type"

def countBound : Nat := Nat.pow 2 64

/-- the count that the digits make after `n` has been read -/
def countFrom (n : Nat) : List Char → Except CountFault Nat
  | [] => .ok n
  | c :: cs =>
    if c.isDigit then
      let m := 10 * n + (c.toNat - '0'.toNat)
      if m < countBound then countFrom m cs else .error .tooLarge
    else .error .invalidDigit

def readCount (text : String) : Except CountFault Nat :=
  match text.toList with
  | [] => .error .empty
  | ['+'] => .error .invalidDigit
  | '+' :: cs => countFrom 0 cs
  | cs => countFrom 0 cs

end TableChart
