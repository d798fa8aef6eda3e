/-!
# Binary64 numbers by rank

A finite magnitude is named by its RANK, the number of smaller magnitudes.  Rank `r` stands for
`units r` multiples of `2^-1074`; ranks are ordered as their magnitudes are, and the neighbours of
rank `r` are `r - 1` and `r + 1`.

* `scale`, `significand`   rank `r` is `significand r * 2 ^ scale r` units;
* `rankCount`              the rank of `2^1024`, the first magnitude that is too large;
* `Finite64`               a sign and a rank below `rankCount`;
* `Binary64`               a finite number, an infinity or no number;
* `Binary64.position`      the place on the number line that comparisons look at;
* `ofBits`, `toBits`       the interchange format: the sign bit, then the rank.

Powers are written as `Nat.pow`, because what `^` stands for depends on the algebra in scope.
-/

namespace TableChart

/-! ## ranks -/

/-- consecutive magnitudes at rank `r` differ by `2 ^ scale r` units -/
def scale (r : Nat) : Nat := r / Nat.pow 2 52 - 1

def significand (r : Nat) : Nat := r - scale r * Nat.pow 2 52

def units (r : Nat) : Nat := significand r * Nat.pow 2 (scale r)

def rankCount : Nat := 2047 * Nat.pow 2 52

/-! ## numbers -/

structure Finite64 where
  negative : Bool
  rank : Nat
  rank_lt : rank < rankCount
deriving DecidableEq

inductive Binary64 where
  | finite (x : Finite64)
  | infinite (negative : Bool)
  | nan
deriving DecidableEq

namespace Finite64

def zero : Finite64 := ⟨false, 0, by decide⟩

/-- both zeros stand at `0` -/
def position (x : Finite64) : Int := if x.negative then -x.rank else x.rank

end Finite64

namespace Binary64

/-- infinities stand just outside the finite numbers, no number stands nowhere -/
def position : Binary64 → Option Int
  | .finite x => some x.position
  | .infinite true => some (-rankCount)
  | .infinite false => some rankCount
  | .nan => none

def lt (x y : Binary64) : Bool :=
  match x.position, y.position with
  | some a, some b => a < b
  | _, _ => false

def le (x y : Binary64) : Bool :=
  match x.position, y.position with
  | some a, some b => a ≤ b
  | _, _ => false

/-! ## interchange format -/

def ofBits (bits : UInt64) : Binary64 :=
  let negative := Nat.pow 2 63 ≤ bits.toNat
  let rank := bits.toNat % Nat.pow 2 63
  if h : rank < rankCount then .finite ⟨negative, rank, h⟩
  else if rank = rankCount then .infinite negative
  else .nan

private def pattern (negative : Bool) (rank : Nat) : UInt64 :=
  UInt64.ofNat (if negative then Nat.pow 2 63 + rank else rank)

def toBits : Binary64 → UInt64
  | .finite x => pattern x.negative x.rank
  | .infinite negative => pattern negative rankCount
  | .nan => pattern false (rankCount + Nat.pow 2 51)

end Binary64

end TableChart
