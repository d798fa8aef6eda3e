import TableChart.Binary64.Nearest

/-!
# Decimals

A decimal is `coefficient * 10 ^ exponent`.

* `Decimal.lead`   the place of the first digit: `10 ^ (lead - 1) ≤ value < 10 ^ lead`;
* `Decimal.rank`   the rank of the nearest binary64 magnitude.
-/

namespace TableChart

def digitCount (n : Nat) : Nat := (Nat.toDigits 10 n).length

structure Decimal where
  coefficient : Nat
  exponent : Int
deriving DecidableEq

namespace Decimal

def lead (d : Decimal) : Int := digitCount d.coefficient + d.exponent

/-- the value in units, as a quotient -/
def unitsNum (d : Decimal) : Nat := d.coefficient * Nat.pow 10 d.exponent.toNat * Nat.pow 2 1074

def unitsDen (d : Decimal) : Nat := Nat.pow 10 (-d.exponent).toNat

def rank (d : Decimal) : Nat := nearestRank d.unitsNum d.unitsDen

end Decimal

end TableChart
