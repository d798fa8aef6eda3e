import TableChart.Decimal.Basic
import TableChart.Text.Blank

/-!
# Decimal numerals

A numeral is an optional sign, digits with an optional point (at least one digit on one side of
it), and an optional exponent of ten.  All digits are ASCII.

* `exponentOf`          what the digits of an exponent stand for: they are followed until they have
                        made `exponentStop` or more, and the rest of them is passed over;
* `Numeral.read?`       the numeral that a text spells;
* `Numeral.magnitude`   the decimal that it stands for;
* `Numeral.rank`        the rank of the nearest magnitude, found in time linear in the digits;
* `readNumber?`         the finite number in a cell: blank ends are dropped, the numeral is rounded
                        to the nearest binary64, and a numeral that is too large is refused.

A half between two neighbouring magnitudes is a multiple of `2^-1075`, so of `10^-1075`.  Behind
that many places it only matters whether a digit other than zero follows: `jammed` writes all such
digits as a single `1`.
-/

namespace TableChart

/-- the digits with their point taken out, and the place of the last of them -/
structure Numeral where
  negative : Bool
  digits : List Char
  exponent : Int
deriving DecidableEq

/-! ## exponents -/

def exponentStop : Nat := Nat.pow 2 16

def exponentStep (n : Nat) (c : Char) : Nat :=
  if n < exponentStop then 10 * n + (c.toNat - '0'.toNat) else n

def exponentOf (ds : List Char) : Nat := ds.foldl exponentStep 0

private theorem foldl_exponentStep (ds : List Char) (n : Nat)
    (h : Nat.ofDigitChars 10 ds n < 10 * exponentStop) :
    ds.foldl exponentStep n = Nat.ofDigitChars 10 ds n := by
  induction ds generalizing n with
  | nil => rfl
  | cons c cs ih =>
    rw [Nat.ofDigitChars_cons] at h ⊢
    have grows : 10 * n ≤ Nat.ofDigitChars 10 cs (10 * n + (c.toNat - '0'.toNat)) := by
      rw [Nat.ofDigitChars_eq_ofDigitChars_zero]
      have := Nat.le_mul_of_pos_left (10 * n + (c.toNat - '0'.toNat)) (Nat.pow_pos (n := cs.length)
        (show 0 < 10 by omega))
      omega
    have small : n < exponentStop := by omega
    rw [List.foldl_cons, exponentStep, if_pos small]
    exact ih _ h

/-- an exponent below `655360` is what its digits spell -/
theorem exponentOf_eq (ds : List Char) (h : Nat.ofDigitChars 10 ds 0 < 10 * exponentStop) :
    exponentOf ds = Nat.ofDigitChars 10 ds 0 :=
  foldl_exponentStep ds 0 h

namespace Numeral

/-! ## reading -/

/-- a text without its sign, and whether the sign was a minus -/
def unsigned : List Char → Bool × List Char
  | '-' :: cs => (true, cs)
  | '+' :: cs => (false, cs)
  | cs => (false, cs)

def leadingDigits (cs : List Char) : List Char := cs.takeWhile Char.isDigit

def afterDigits (cs : List Char) : List Char := cs.dropWhile Char.isDigit

/-- the digits after a point and what follows them -/
def fraction : List Char → List Char × List Char
  | '.' :: cs => (leadingDigits cs, afterDigits cs)
  | cs => ([], cs)

/-- the exponent that a whole text spells; the empty text is exponent `0` -/
def exponent? : List Char → Option Int
  | [] => some 0
  | c :: cs =>
    if c = 'e' ∨ c = 'E' then
      let (negative, ds) := unsigned cs
      if ds ≠ [] ∧ ds.all Char.isDigit then
        some (if negative then -(exponentOf ds : Int) else exponentOf ds)
      else none
    else none

def read? (cs : List Char) : Option Numeral :=
  let (negative, body) := unsigned cs
  let whole := leadingDigits body
  let (part, rest) := fraction (afterDigits body)
  if whole = [] ∧ part = [] then none
  else (exponent? rest).map fun e => ⟨negative, whole ++ part, e - part.length⟩

/-! ## rounding -/

def magnitude (n : Numeral) : Decimal := ⟨Nat.ofDigitChars 10 n.digits 0, n.exponent⟩

/-- the places behind the point in which halves between magnitudes are written -/
def halfPlaces : Nat := 1075

/-- the decimal of some digits, those behind `halfPlaces` jammed into one -/
def jammed (ds : List Char) (exponent : Int) : Decimal :=
  let keep := (ds.length + exponent + halfPlaces).toNat
  let cut := ds.drop keep
  let c := Nat.ofDigitChars 10 (ds.take keep) 0
  if cut.all (· == '0') then ⟨c, exponent + cut.length⟩
  else ⟨10 * c + 1, exponent + cut.length - 1⟩

/-- what lies below half the least magnitude (about `2.5e-324`) or above the greatest (about
`1.8e308`) is told by the place of its first digit alone -/
def rank (n : Numeral) : Nat :=
  let ds := n.digits.dropWhile (· == '0')
  let lead := ds.length + n.exponent
  if ds = [] ∨ lead ≤ -324 then 0
  else if 310 ≤ lead then rankCount
  else (jammed ds n.exponent).rank

def toFinite64? (n : Numeral) : Option Finite64 :=
  if h : n.rank < rankCount then some ⟨n.negative, n.rank, h⟩ else none

end Numeral

def readNumber? (cell : String) : Option Finite64 :=
  (Numeral.read? (Text.trim cell.toList)).bind Numeral.toFinite64?

end TableChart
