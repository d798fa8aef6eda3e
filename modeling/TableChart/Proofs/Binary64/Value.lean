import Mathlib.Algebra.Order.Field.Rat
import Mathlib.Algebra.Order.Field.Basic
import Mathlib.Algebra.Order.Ring.Abs
import Mathlib.Data.Rat.Cast.Order
import TableChart.Proofs.Binary64.Units

/-!
# The value of a finite number

* `Finite64.value`   the number that is stood for, as a rational;
* `rankValue r`      the magnitude of rank `r`, as a rational (`Finite64.abs_value_eq`);
* `Finite64.value_lt_iff`, `value_eq_iff`   values are ordered as positions are, so two numbers are
                     equal if they stand at one position: the zeros have two signs and one value.

Along the positions the units grow strictly, on both sides of zero.
-/

namespace TableChart

/-- the units at a position, negative on the left of zero -/
def unitsAt (p : Int) : Int := p.sign * units p.natAbs

theorem unitsAt_natCast (n : Nat) : unitsAt n = units n := by
  cases n with
  | zero => rw [units_zero]; rfl
  | succ n => exact one_mul _

theorem unitsAt_neg (p : Int) : unitsAt (-p) = -unitsAt p := by
  rw [unitsAt, unitsAt, Int.sign_neg, Int.natAbs_neg, Int.neg_mul]

theorem unitsAt_lt_unitsAt {p q : Int} (h : p < q) : unitsAt p < unitsAt q := by
  obtain ⟨m, rfl | rfl⟩ := p.eq_nat_or_neg <;> obtain ⟨n, rfl | rfl⟩ := q.eq_nat_or_neg
  · have lt : m < n := by omega
    rw [unitsAt_natCast, unitsAt_natCast]
    exact Int.ofNat_lt.mpr (units_lt_units lt)
  · omega
  · -- one of the two is not at zero
    rw [unitsAt_neg, unitsAt_natCast, unitsAt_natCast]
    have left := units_le_units (Nat.zero_le m)
    have right := units_le_units (Nat.zero_le n)
    rw [units_zero] at left right
    rcases Nat.eq_zero_or_pos m with rfl | hm
    · have hn : 0 < n := by omega
      have pos := units_lt_units hn
      rw [units_zero] at pos ⊢
      omega
    · have pos := units_lt_units hm
      rw [units_zero] at pos
      omega
  · have lt : n < m := by omega
    rw [unitsAt_neg, unitsAt_neg, unitsAt_natCast, unitsAt_natCast]
    exact Int.neg_lt_neg (Int.ofNat_lt.mpr (units_lt_units lt))

namespace Finite64

def value (x : Finite64) : ℚ := (if x.negative then -1 else 1) * (units x.rank / unitsInOne)

theorem value_eq (x : Finite64) : x.value = unitsAt x.position / unitsInOne := by
  unfold value position
  cases x.negative with
  | false =>
    rw [if_neg Bool.false_ne_true, if_neg Bool.false_ne_true, unitsAt_natCast, one_mul,
      Int.cast_natCast]
  | true =>
    rw [if_pos rfl, if_pos rfl, unitsAt_neg, unitsAt_natCast, Int.cast_neg, Int.cast_natCast,
      neg_div, neg_one_mul]

theorem unitsInOne_cast_pos : (0 : ℚ) < unitsInOne := Nat.cast_pos.mpr unitsInOne_pos

theorem value_lt_iff (x y : Finite64) : x.value < y.value ↔ x.position < y.position := by
  have increasing : StrictMono unitsAt := fun _ _ => unitsAt_lt_unitsAt
  rw [value_eq, value_eq, div_lt_div_iff_of_pos_right unitsInOne_cast_pos, Int.cast_lt,
    increasing.lt_iff_lt]

theorem value_eq_iff (x y : Finite64) : x.value = y.value ↔ x.position = y.position := by
  have increasing : StrictMono unitsAt := fun _ _ => unitsAt_lt_unitsAt
  rw [value_eq, value_eq, div_left_inj' unitsInOne_cast_pos.ne', Int.cast_inj,
    increasing.injective.eq_iff]

theorem value_zero : zero.value = 0 := by
  show (1 : ℚ) * (units 0 / unitsInOne) = 0
  rw [units_zero, Nat.cast_zero, zero_div, mul_zero]

theorem value_eq_zero_iff (x : Finite64) : x.value = 0 ↔ x.rank = 0 := by
  have here : zero.position = 0 := rfl
  rw [← value_zero, value_eq_iff, here]
  unfold position
  split <;> omega

theorem value_neg_iff {x : Finite64} (h : 0 < x.rank) : x.value < 0 ↔ x.negative := by
  have here : zero.position = 0 := rfl
  rw [← value_zero, value_lt_iff, here]
  unfold position
  split
  · rename_i sign
    exact ⟨fun _ => sign, fun _ => by omega⟩
  · rename_i sign
    exact ⟨fun left => by omega, fun negative => absurd negative sign⟩

end Finite64

/-! ## magnitudes -/

def rankValue (r : Nat) : ℚ := units r / unitsInOne

theorem rankValue_zero : rankValue 0 = 0 := by
  rw [rankValue, units_zero, Nat.cast_zero, zero_div]

theorem rankValue_strictMono : StrictMono rankValue := fun _ _ h =>
  div_lt_div_of_pos_right (Nat.cast_lt.mpr (units_lt_units h)) Finite64.unitsInOne_cast_pos

theorem rankValue_pos_iff {r : Nat} : 0 < rankValue r ↔ 0 < r := by
  rw [← rankValue_zero, rankValue_strictMono.lt_iff_lt]

theorem Finite64.value_of_rank {r : Nat} (h : r < rankCount) :
    (⟨false, r, h⟩ : Finite64).value = rankValue r := one_mul _

theorem Finite64.abs_value_eq (x : Finite64) : |x.value| = rankValue x.rank := by
  have nonneg : 0 ≤ rankValue x.rank := div_nonneg (Nat.cast_nonneg _) (Nat.cast_nonneg _)
  have value : x.value = (if x.negative then -1 else 1) * rankValue x.rank := rfl
  rw [value, abs_mul, abs_of_nonneg nonneg]
  split <;> simp

theorem Finite64.abs_value_le_iff (x y : Finite64) : |x.value| ≤ |y.value| ↔ x.rank ≤ y.rank := by
  rw [x.abs_value_eq, y.abs_value_eq, rankValue_strictMono.le_iff_le]

end TableChart
