import TableChart.Decimal.Basic

/-!
# The fewest digits that read back

* `leadOf`           the place of the first digit of a magnitude;
* `shortestDecimal`  among the decimals that round to a magnitude, one with the fewest digits, and
                     of those the nearest to it; of two equally near the larger.

On the grid of `k` digits only the two neighbours of the magnitude have to be tried: if any
decimal of the grid rounds to it, one of these does.  Seventeen digits always suffice.
-/

namespace TableChart

/-- below one, the digits of the reciprocal count the zeros after the point -/
def leadOf (r : Nat) : Int :=
  if Nat.pow 2 1074 ≤ units r then digitCount (units r / Nat.pow 2 1074)
  else 1 - (digitCount ((Nat.pow 2 1074 - 1) / units r) : Int)

/-- the magnitude as a quotient of multiples of `10 ^ x` -/
def gridNum (r : Nat) (x : Int) : Nat := units r * Nat.pow 10 (-x).toNat

def gridDen (x : Int) : Nat := Nat.pow 2 1074 * Nat.pow 10 x.toNat

/-- the neighbour below on the grid of multiples of `10 ^ x` -/
def gridBelow (r : Nat) (x : Int) : Decimal := ⟨gridNum r x / gridDen x, x⟩

/-- the neighbour above, with a coefficient of ten to the `k` written as one digit -/
def gridAbove (r k : Nat) (x : Int) : Decimal :=
  let c := gridNum r x / gridDen x + 1
  if c = Nat.pow 10 k then ⟨1, x + k⟩ else ⟨c, x⟩

/-- the nearer of two neighbours, the upper one for a tie -/
def gridNearest (r k : Nat) (x : Int) : Decimal :=
  if 2 * (gridNum r x % gridDen x) < gridDen x then gridBelow r x else gridAbove r k x

/-- the nearer neighbour if it rounds to the magnitude, else the other one if it does -/
def onGrid? (r k : Nat) : Option Decimal :=
  let x := leadOf r - k
  [gridNearest r k x, gridBelow r x, gridAbove r k x].find? (·.rank == r)

def shortestDecimal (r : Nat) : Decimal :=
  ((List.range' 1 17).findSome? (onGrid? r)).getD (gridNearest r 17 (leadOf r - 17))

end TableChart
