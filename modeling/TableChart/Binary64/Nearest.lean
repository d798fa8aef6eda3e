import TableChart.Binary64.Basic

/-!
# Rounding to the nearest magnitude

* `roundHalfEven`   a quotient to the nearest whole number, a half to the even neighbour;
* `nearestRank`     a quotient of units to the nearest rank, a half to the even rank.

A quotient below `2^(e+53)` units is a multiple of `2^e` with a significand of at most 53 bits, so
rounding it on that grid is rounding it among the magnitudes.  A significand that is rounded up to
`2^53` carries into the next binade by itself: `e * 2^52 + 2^53` is rank `(e + 1) * 2^52 + 2^52`.
Ranks from `rankCount` on are overflow.
-/

namespace TableChart

def roundHalfEven (num den : Nat) : Nat :=
  let q := num / den
  let rest := 2 * (num % den)
  if rest < den then q
  else if den < rest then q + 1
  else q + q % 2

def nearestRank (num den : Nat) : Nat :=
  let e := Nat.log2 (num / den) - 52
  e * Nat.pow 2 52 + roundHalfEven num (den * Nat.pow 2 e)

end TableChart
