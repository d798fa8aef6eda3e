import Mathlib.Algebra.Order.Ring.Abs
import Mathlib.Tactic.Linarith
import Mathlib.Tactic.LinearCombination
import TableChart.Proofs.Binary64.Rounding
import TableChart.Proofs.Binary64.Value

/-!
# The nearest finite number

* `Finite64.Nearest q x`     no finite number is nearer to `q` than `x`, and of two that are equally near
                             `x` is the one with the even significand;
* `roundsTo_iff_halves`      rounding to a rank, said by the halves next to it;
* `nearest_iff_roundsTo`     the rank that a quotient rounds to is that of the nearest number;
* `Nearest.value_unique`     there is one nearest number, but for the sign of a zero.

Half way between the greatest finite number and `2 ^ 1024` the numbers end that have a nearest one: the
number above would be `2 ^ 1024`, which is not finite and has the even significand.
-/

namespace TableChart

/-! ## distances -/

section
variable {a b t : ℚ} (h : a < b)
include h

theorem abs_sub_le_iff_left : |a - t| ≤ |b - t| ↔ 2 * t ≤ a + b := by
  have product : (b - t) ^ 2 - (a - t) ^ 2 = (b - a) * (a + b - 2 * t) := by ring
  rw [← sq_le_sq, ← sub_nonneg, product, mul_nonneg_iff_of_pos_left (sub_pos.mpr h), sub_nonneg]

theorem abs_sub_le_iff_right : |b - t| ≤ |a - t| ↔ a + b ≤ 2 * t := by
  have product : (a - t) ^ 2 - (b - t) ^ 2 = (b - a) * (2 * t - (a + b)) := by ring
  rw [← sq_le_sq, ← sub_nonneg, product, mul_nonneg_iff_of_pos_left (sub_pos.mpr h), sub_nonneg]

theorem abs_sub_eq_iff : |a - t| = |b - t| ↔ a + b = 2 * t := by
  rw [le_antisymm_iff, abs_sub_le_iff_left h, abs_sub_le_iff_right h, le_antisymm_iff, and_comm]

end

/-! ## halves -/

theorem significand_mod_two (r : Nat) : significand r % 2 = r % 2 := by
  have := rank_eq r
  omega

/-- an odd rank has to stay off the halves -/
theorem roundsTo_iff_halves {num den : Nat} (h : 0 < den) (r : Nat) :
    RoundsTo num den r ↔
      (units (r - 1) + units r : ℚ) ≤ 2 * (num / den) ∧
      2 * (num / den) ≤ (units r + units (r + 1) : ℚ) ∧
      (r % 2 = 1 → (units (r - 1) + units r : ℚ) ≠ 2 * (num / den) ∧
        (units r + units (r + 1) : ℚ) ≠ 2 * (num / den)) := by
  have pos : (0 : ℚ) < den := Nat.cast_pos.mpr h
  have quotient : (2 * (num / den) : ℚ) = (2 * num : Nat) / den := by push_cast; ring
  have le_iff (half : Nat) : (half : ℚ) ≤ 2 * (num / den) ↔ half * den ≤ 2 * num := by
    rw [quotient, le_div_iff₀ pos]
    exact_mod_cast Iff.rfl
  have ge_iff (half : Nat) : 2 * (num / den) ≤ (half : ℚ) ↔ 2 * num ≤ half * den := by
    rw [quotient, div_le_iff₀ pos]
    exact_mod_cast Iff.rfl
  have eq_iff (half : Nat) : (half : ℚ) = 2 * (num / den) ↔ half * den = 2 * num := by
    rw [quotient, eq_div_iff pos.ne']
    exact_mod_cast Iff.rfl
  rw [← Nat.cast_add, ← Nat.cast_add, le_iff, ge_iff, Ne, eq_iff, Ne, eq_iff]
  constructor
  · rintro ⟨lower, upper⟩
    omega
  · rintro ⟨lower, upper, odd⟩
    constructor <;> omega

/-- half way between the greatest finite number and `2 ^ 1024` -/
def overflowBound : ℚ := 2 ^ 1024 - 2 ^ 970

theorem one_lt_overflowBound : 1 < overflowBound := by
  have lt : 1 + 2 ^ 970 < 2 ^ 1024 := by decide +kernel
  exact lt_sub_iff_add_lt.mpr (by exact_mod_cast lt)

theorem units_top :
    units (rankCount - 1) + units rankCount + 2 * 2 ^ 970 * unitsInOne = 2 * (2 ^ 1024 * unitsInOne) := by
  have step := units_succ (rankCount - 1)
  have last : rankCount - 1 + 1 = rankCount := by decide
  have spacing : 2 ^ scale (rankCount - 1) = 2 * 2 ^ 970 * unitsInOne := by decide +kernel
  rw [last, spacing] at step
  rw [← units_rankCount]
  omega

theorem halves_top :
    (units (rankCount - 1) + units rankCount : ℚ) = 2 * (overflowBound * unitsInOne) := by
  have top := congrArg (Nat.cast : Nat → ℚ) units_top
  simp only [Nat.cast_add, Nat.cast_mul, Nat.cast_pow, Nat.cast_ofNat] at top
  unfold overflowBound
  generalize (2 : ℚ) ^ 1024 = beyond at top ⊢
  generalize (2 : ℚ) ^ 970 = half at top ⊢
  linear_combination top

/-- where a finite rank ends, overflow has not begun; the last of them is odd, so it stays off it -/
theorem lt_overflowBound {r : Nat} (h : r < rankCount) {t : ℚ}
    (upper : 2 * t ≤ (units r + units (r + 1) : ℚ))
    (odd : r % 2 = 1 → (units r + units (r + 1) : ℚ) ≠ 2 * t) : t < overflowBound * unitsInOne := by
  have top := halves_top
  by_cases last : r + 1 = rankCount
  · have parity : r % 2 = 1 := by
      have even : rankCount % 2 = 0 := by decide
      omega
    obtain rfl : r = rankCount - 1 := by omega
    rw [last, top] at upper odd
    exact lt_of_le_of_ne (by linarith) fun e => odd parity (by rw [e])
  · have here : (units r : ℚ) ≤ units (rankCount - 1) := Nat.cast_le.mpr (units_le_units (by omega))
    have above : (units (r + 1) : ℚ) < units rankCount := Nat.cast_lt.mpr (units_lt_units (by omega))
    linarith

theorem overflowBound_le {num den r : Nat} (hd : 0 < den) (h : rankCount ≤ r)
    (rounds : RoundsTo num den r) : overflowBound ≤ (num / den / unitsInOne : ℚ) := by
  have one : (0 : ℚ) < unitsInOne := Nat.cast_pos.mpr unitsInOne_pos
  have top := halves_top
  have below : (units (rankCount - 1) : ℚ) ≤ units (r - 1) := Nat.cast_le.mpr (units_le_units (by omega))
  have here : (units rankCount : ℚ) ≤ units r := Nat.cast_le.mpr (units_le_units h)
  have lower := ((roundsTo_iff_halves hd r).mp rounds).1
  rw [le_div_iff₀ one]
  linarith

/-! ## nearest numbers -/

namespace Finite64

/-- no finite number is nearer to `q`, and of two that are equally near the even one is meant -/
structure Nearest (q : ℚ) (x : Finite64) : Prop where
  in_range : |q| < overflowBound
  closest : ∀ y : Finite64, |x.value - q| ≤ |y.value - q|
  even : ∀ y : Finite64, y.value ≠ x.value → |y.value - q| = |x.value - q| →
    Even (significand x.rank)

theorem abs_value_sub (x : Finite64) (t : ℚ) :
    |x.value - t / unitsInOne| = |unitsAt x.position - t| / unitsInOne := by
  rw [value_eq, ← sub_div, abs_div, abs_of_pos unitsInOne_cast_pos]

/-- the same, counted in units -/
theorem nearest_iff_units {t : ℚ} {x : Finite64} :
    Nearest (t / unitsInOne) x ↔
      |t| < overflowBound * unitsInOne ∧
      (∀ y : Finite64, |unitsAt x.position - t| ≤ |unitsAt y.position - t|) ∧
      ∀ y : Finite64, y.position ≠ x.position → |unitsAt y.position - t| = |unitsAt x.position - t| →
        Even (significand x.rank) := by
  have range : |t / unitsInOne| < overflowBound ↔ |t| < overflowBound * unitsInOne := by
    rw [abs_div, abs_of_pos unitsInOne_cast_pos, div_lt_iff₀ unitsInOne_cast_pos]
  have closer (y : Finite64) : |x.value - t / unitsInOne| ≤ |y.value - t / unitsInOne| ↔
      |unitsAt x.position - t| ≤ |unitsAt y.position - t| := by
    rw [abs_value_sub, abs_value_sub, div_le_div_iff_of_pos_right unitsInOne_cast_pos]
  have tie (y : Finite64) : |y.value - t / unitsInOne| = |x.value - t / unitsInOne| ↔
      |unitsAt y.position - t| = |unitsAt x.position - t| := by
    rw [abs_value_sub, abs_value_sub, div_left_inj' unitsInOne_cast_pos.ne']
  constructor
  · rintro ⟨in_range, closest, even⟩
    refine ⟨range.mp in_range, fun y => (closer y).mp (closest y), fun y other same => ?_⟩
    exact even y (mt (value_eq_iff y x).mp other) ((tie y).mpr same)
  · rintro ⟨in_range, closest, even⟩
    refine ⟨range.mpr in_range, fun y => (closer y).mpr (closest y), fun y other same => ?_⟩
    exact even y (mt (value_eq_iff y x).mpr other) ((tie y).mp same)

theorem unitsAt_position {r : Nat} (h : r < rankCount) :
    unitsAt (position ⟨false, r, h⟩) = units r := unitsAt_natCast r

section
variable {r : Nat} (h : r < rankCount) {t : ℚ}
include h

/-- of the numbers on one side of a magnitude the next one is the nearest to it -/
theorem position_cases (y : Finite64) (other : y.position ≠ position ⟨false, r, h⟩) :
    (unitsAt y.position < units r ∧ unitsAt y.position ≤ units (r - 1)) ∨
      (units r : ℤ) < unitsAt y.position ∧ (units (r + 1) : ℤ) ≤ unitsAt y.position := by
  have increasing : StrictMono unitsAt := fun _ _ => unitsAt_lt_unitsAt
  have here : position ⟨false, r, h⟩ = (r : ℤ) := rfl
  rw [here] at other
  rw [← unitsAt_natCast, ← unitsAt_natCast, ← unitsAt_natCast, increasing.lt_iff_lt,
    increasing.le_iff_le, increasing.lt_iff_lt, increasing.le_iff_le]
  omega

theorem closest_of_halves (lower : (units (r - 1) + units r : ℚ) ≤ 2 * t)
    (upper : 2 * t ≤ (units r + units (r + 1) : ℚ)) (y : Finite64) :
    |unitsAt (position ⟨false, r, h⟩) - t| ≤ |unitsAt y.position - t| := by
  by_cases other : y.position = position ⟨false, r, h⟩
  · rw [other]
  · rw [unitsAt_position h, Int.cast_natCast]
    rcases position_cases h y other with ⟨lt, le⟩ | ⟨lt, le⟩
    · have lt : (unitsAt y.position : ℚ) < units r := by exact_mod_cast lt
      have le : (unitsAt y.position : ℚ) ≤ units (r - 1) := by exact_mod_cast le
      rw [abs_sub_le_iff_right lt]
      linarith
    · have lt : (units r : ℚ) < unitsAt y.position := by exact_mod_cast lt
      have le : (units (r + 1) : ℚ) ≤ unitsAt y.position := by exact_mod_cast le
      rw [abs_sub_le_iff_left lt]
      linarith

theorem even_of_halves (lower : (units (r - 1) + units r : ℚ) ≤ 2 * t)
    (upper : 2 * t ≤ (units r + units (r + 1) : ℚ))
    (odd : r % 2 = 1 → (units (r - 1) + units r : ℚ) ≠ 2 * t ∧
      (units r + units (r + 1) : ℚ) ≠ 2 * t)
    (y : Finite64) (other : y.position ≠ position ⟨false, r, h⟩)
    (same : |unitsAt y.position - t| = |unitsAt (position ⟨false, r, h⟩) - t|) :
    Even (significand r) := by
  rw [Nat.even_iff, significand_mod_two]
  by_contra not_even
  obtain ⟨low, high⟩ := odd (by omega)
  rw [unitsAt_position h, Int.cast_natCast] at same
  rcases position_cases h y other with ⟨lt, le⟩ | ⟨lt, le⟩
  · have lt : (unitsAt y.position : ℚ) < units r := by exact_mod_cast lt
    have le : (unitsAt y.position : ℚ) ≤ units (r - 1) := by exact_mod_cast le
    have half := (abs_sub_eq_iff lt).mp same
    exact low (by linarith)
  · have lt : (units r : ℚ) < unitsAt y.position := by exact_mod_cast lt
    have le : (units (r + 1) : ℚ) ≤ unitsAt y.position := by exact_mod_cast le
    have half := (abs_sub_eq_iff lt).mp same.symm
    exact high (by linarith)

/-- compared with the numbers next to it, the nearest number lies between the halves -/
theorem halves_of_nearest (pos : 0 ≤ t) (nearest : Nearest (t / unitsInOne) ⟨false, r, h⟩) :
    (units (r - 1) + units r : ℚ) ≤ 2 * t ∧ 2 * t ≤ (units r + units (r + 1) : ℚ) ∧
      (r % 2 = 1 → (units (r - 1) + units r : ℚ) ≠ 2 * t ∧
        (units r + units (r + 1) : ℚ) ≠ 2 * t) := by
  obtain ⟨in_range, closest, even⟩ := nearest_iff_units.mp nearest
  have not_odd (h' : Even (significand r)) : r % 2 ≠ 1 := by
    rw [Nat.even_iff, significand_mod_two] at h'
    omega
  have here := unitsAt_position h
  have lower : (units (r - 1) + units r : ℚ) ≤ 2 * t ∧
      (r % 2 = 1 → (units (r - 1) + units r : ℚ) ≠ 2 * t) := by
    rcases Nat.eq_zero_or_pos r with rfl | hr
    · rw [units_zero]
      exact ⟨by simpa using pos, fun odd => absurd odd (by decide)⟩
    · have hs : r - 1 < rankCount := by omega
      have lt : (units (r - 1) : ℚ) < units r := Nat.cast_lt.mpr (units_lt_units (by omega))
      have near := closest ⟨false, r - 1, hs⟩
      have tie := even ⟨false, r - 1, hs⟩ (by simp [position]; omega)
      rw [here, unitsAt_position hs, Int.cast_natCast, Int.cast_natCast] at near tie
      exact ⟨(abs_sub_le_iff_right lt).mp near,
        fun odd e => not_odd (tie ((abs_sub_eq_iff lt).mpr e)) odd⟩
  have upper : 2 * t ≤ (units r + units (r + 1) : ℚ) ∧
      (r % 2 = 1 → (units r + units (r + 1) : ℚ) ≠ 2 * t) := by
    by_cases last : r + 1 = rankCount
    · have top := halves_top
      obtain rfl : r = rankCount - 1 := by omega
      rw [abs_of_nonneg pos] at in_range
      rw [last, top]
      exact ⟨by linarith, fun _ e => by linarith⟩
    · have hs : r + 1 < rankCount := by omega
      have lt : (units r : ℚ) < units (r + 1) := Nat.cast_lt.mpr (units_lt_succ r)
      have near := closest ⟨false, r + 1, hs⟩
      have tie := even ⟨false, r + 1, hs⟩ (by simp [position])
      rw [here, unitsAt_position hs, Int.cast_natCast, Int.cast_natCast] at near tie
      exact ⟨(abs_sub_le_iff_left lt).mp near,
        fun odd e => not_odd (tie ((abs_sub_eq_iff lt).mpr e).symm) odd⟩
  exact ⟨lower.1, upper.1, fun odd => ⟨lower.2 odd, upper.2 odd⟩⟩

end

theorem nearest_iff_roundsTo {num den r : Nat} (hd : 0 < den) (h : r < rankCount) :
    Nearest (num / den / unitsInOne) ⟨false, r, h⟩ ↔ RoundsTo num den r := by
  have pos : (0 : ℚ) ≤ num / den := div_nonneg (Nat.cast_nonneg _) (Nat.cast_nonneg _)
  rw [roundsTo_iff_halves hd]
  constructor
  · exact halves_of_nearest h pos
  · rintro ⟨lower, upper, odd⟩
    refine nearest_iff_units.mpr ⟨?_, closest_of_halves h lower upper,
      even_of_halves h lower upper odd⟩
    rw [abs_of_nonneg pos]
    exact lt_overflowBound h upper fun parity => (odd parity).2

/-- a quotient of units is rounded to the number next to it -/
theorem nearest_nearestRank {num den : Nat} (hd : 0 < den) (h : nearestRank num den < rankCount) :
    Nearest (num / den / unitsInOne) ⟨false, nearestRank num den, h⟩ :=
  (nearest_iff_roundsTo hd h).mpr (roundsTo_nearestRank num hd)

/-! ## signs -/

def opposite (x : Finite64) : Finite64 := { x with negative := !x.negative }

theorem opposite_opposite (x : Finite64) : x.opposite.opposite = x := by
  unfold opposite
  rw [Bool.not_not]

theorem position_opposite (x : Finite64) : x.opposite.position = -x.position := by
  unfold position opposite
  cases x.negative with
  | false => rfl
  | true => exact (neg_neg _).symm

theorem value_opposite (x : Finite64) : x.opposite.value = -x.value := by
  rw [value_eq, value_eq, position_opposite, unitsAt_neg, Int.cast_neg, neg_div]

theorem Nearest.opposite {q : ℚ} {x : Finite64} (h : Nearest q x) : Nearest (-q) x.opposite := by
  have mirror (y : Finite64) : |y.opposite.value - -q| = |y.value - q| := by
    rw [value_opposite, ← abs_neg (y.value - q)]
    congr 1
    ring
  refine ⟨(abs_neg q).symm ▸ h.in_range, fun y => ?_, fun y other same => ?_⟩
  · rw [mirror x, ← opposite_opposite y, mirror y.opposite]
    exact h.closest y.opposite
  · rw [mirror x, ← opposite_opposite y, mirror y.opposite] at same
    refine h.even y.opposite (fun e => other ?_) same
    rw [value_opposite, ← e, value_opposite, neg_neg]

theorem nearest_opposite_iff {q : ℚ} {x : Finite64} : Nearest (-q) x.opposite ↔ Nearest q x := by
  refine ⟨fun h => ?_, Nearest.opposite⟩
  have back := h.opposite
  rwa [neg_neg, opposite_opposite] at back

/-! ## one nearest number -/

/-- between numbers that do not stand next to each other there is a third -/
theorem exists_between {x y : Finite64} (h : x.position + 1 < y.position) :
    ∃ z : Finite64, x.value < z.value ∧ z.value < y.value := by
  have hx := x.rank_lt
  have hy := y.rank_lt
  have lower : -(x.rank : Int) ≤ x.position := by
    unfold position
    split <;> omega
  have upper : y.position ≤ y.rank := by
    unfold position
    split <;> omega
  have here : ∃ z : Finite64, z.position = x.position + 1 := by
    refine ⟨⟨decide (x.position + 1 < 0), (x.position + 1).natAbs, by omega⟩, ?_⟩
    unfold position
    simp only [decide_eq_true_eq]
    split <;> omega
  obtain ⟨z, hz⟩ := here
  exact ⟨z, (value_lt_iff x z).mpr (by omega), (value_lt_iff z y).mpr (by omega)⟩

theorem position_mod_two (x : Finite64) : x.position % 2 = x.rank % 2 := by
  unfold position
  split <;> omega

theorem Nearest.le {q : ℚ} {x y : Finite64} (hx : Nearest q x) (hy : Nearest q y) :
    y.value ≤ x.value := by
  by_contra lt
  have lt := lt_of_not_ge lt
  have same : |x.value - q| = |y.value - q| := le_antisymm (hx.closest y) (hy.closest x)
  have middle := (abs_sub_eq_iff lt).mp same
  by_cases third : x.position + 1 < y.position
  · obtain ⟨z, above, below⟩ := exists_between third
    have left := (abs_sub_le_iff_left above).mp (hx.closest z)
    have right := (abs_sub_le_iff_right below).mp (hy.closest z)
    linarith
  · -- of two neighbours one is odd
    have left := hx.even y lt.ne' same.symm
    have right := hy.even x lt.ne same
    rw [Nat.even_iff, significand_mod_two] at left right
    have step := (value_lt_iff x y).mp lt
    have parity := x.position_mod_two
    have parity' := y.position_mod_two
    omega

/-- what is nearest to `q` is so but for the sign of a zero -/
theorem Nearest.value_unique {q : ℚ} {x y : Finite64} (hx : Nearest q x) (hy : Nearest q y) :
    x.value = y.value :=
  le_antisymm (hy.le hx) (hx.le hy)

end Finite64

end TableChart
