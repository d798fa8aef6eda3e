import TableChart.Decimal.Basic
import TableChart.Proofs.Binary64.Rounding

/-!
# Ranks of decimals

* `rank_shift`     a decimal may be written with more zeros and a smaller exponent;
* `rank_eq_zero`, `rankCount_le_rank`   the least and the greatest ranks are told by the place of the
                   first digit.
-/

namespace TableChart

namespace Decimal

/-! ## the definitions with powers -/

theorem unitsNum_eq (d : Decimal) :
    d.unitsNum = d.coefficient * 10 ^ d.exponent.toNat * unitsInOne :=
  congrArg (d.coefficient * Nat.pow 10 d.exponent.toNat * ·) two_pow_eq

theorem unitsDen_eq (d : Decimal) : d.unitsDen = 10 ^ (-d.exponent).toNat := rfl

theorem rank_eq (d : Decimal) : d.rank = nearestRank d.unitsNum d.unitsDen := rfl

theorem unitsDen_pos (d : Decimal) : 0 < d.unitsDen := Nat.pow_pos (by omega)

theorem unitsNum_neg (n e : Nat) : (⟨n, -(e : Int)⟩ : Decimal).unitsNum = n * unitsInOne := by
  have whole : (-(e : Int)).toNat = 0 := by omega
  rw [unitsNum_eq, whole]
  ring

theorem unitsDen_neg (n e : Nat) : (⟨n, -(e : Int)⟩ : Decimal).unitsDen = 10 ^ e := by
  rw [unitsDen_eq, neg_neg, Int.toNat_natCast]

/-! ## ranks -/

theorem rank_shift (c k : Nat) (x : Int) :
    (⟨c * 10 ^ k, x⟩ : Decimal).rank = (⟨c, x + k⟩ : Decimal).rank := by
  refine nearestRank_congr (unitsDen_pos _) (unitsDen_pos _) ?_
  simp only [unitsNum_eq, unitsDen_eq]
  have places : k + x.toNat + (-(x + k)).toNat = (x + k).toNat + (-x).toNat := by omega
  calc c * 10 ^ k * 10 ^ x.toNat * unitsInOne * 10 ^ (-(x + k)).toNat
      = c * unitsInOne * 10 ^ (k + x.toNat + (-(x + k)).toNat) := by ring
    _ = c * unitsInOne * 10 ^ ((x + k).toNat + (-x).toNat) := by rw [places]
    _ = c * 10 ^ (x + k).toNat * unitsInOne * 10 ^ (-x).toNat := by ring

variable {d : Decimal} {k : Nat}

theorem rank_eq_zero_of_coefficient (h : d.coefficient = 0) : d.rank = 0 := by
  rw [rank_eq]
  exact nearestRank_exact d.unitsDen_pos (by simp [unitsNum_eq, h, units_zero])

/-- half the least magnitude is more than `10 ^ -324` -/
theorem rank_eq_zero (hc : d.coefficient < 10 ^ k) (h : k + d.exponent ≤ -324) : d.rank = 0 := by
  have half : 2 * unitsInOne ≤ 10 ^ 324 := by decide +kernel
  have places : d.exponent.toNat = 0 ∧ k + 324 ≤ (-d.exponent).toNat := by omega
  rw [rank_eq, nearestRank_eq_iff d.unitsDen_pos, unitsNum_eq, unitsDen_eq, places.1]
  refine ⟨by simp [units_zero], ?_⟩
  have one : units (0 + 1) = 1 := units_of_lt (by omega)
  rw [units_zero, one]
  calc 2 * (d.coefficient * 10 ^ 0 * unitsInOne) + 0 % 2
      = d.coefficient * (2 * unitsInOne) := by ring
    _ ≤ 10 ^ k * 10 ^ 324 := Nat.mul_le_mul (Nat.le_of_lt hc) half
    _ = 10 ^ (k + 324) := (pow_add ..).symm
    _ ≤ 10 ^ (-d.exponent).toNat := Nat.pow_le_pow_right (by omega) places.2
    _ = (0 + 1) * 10 ^ (-d.exponent).toNat := by ring

/-- all magnitudes are less than `10 ^ 309` -/
theorem rankCount_le_rank (hc : 10 ^ k ≤ d.coefficient) (h : 309 ≤ k + d.exponent) :
    rankCount ≤ d.rank := by
  have large : (2 : Nat) ^ 1024 ≤ 10 ^ 309 := by decide +kernel
  have places : 309 + (-d.exponent).toNat ≤ k + d.exponent.toNat := by omega
  refine le_nearestRank d.unitsDen_pos ?_
  rw [units_rankCount, unitsNum_eq, unitsDen_eq]
  have le : 2 ^ 1024 * 10 ^ (-d.exponent).toNat ≤ d.coefficient * 10 ^ d.exponent.toNat := by
    calc 2 ^ 1024 * 10 ^ (-d.exponent).toNat
        ≤ 10 ^ 309 * 10 ^ (-d.exponent).toNat := Nat.mul_le_mul_right _ large
      _ = 10 ^ (309 + (-d.exponent).toNat) := (pow_add ..).symm
      _ ≤ 10 ^ (k + d.exponent.toNat) := Nat.pow_le_pow_right (by omega) places
      _ = 10 ^ k * 10 ^ d.exponent.toNat := pow_add ..
      _ ≤ d.coefficient * 10 ^ d.exponent.toNat := Nat.mul_le_mul_right _ hc
  calc 2 ^ 1024 * unitsInOne * 10 ^ (-d.exponent).toNat
      = 2 ^ 1024 * 10 ^ (-d.exponent).toNat * unitsInOne := Nat.mul_right_comm ..
    _ ≤ d.coefficient * 10 ^ d.exponent.toNat * unitsInOne := Nat.mul_le_mul_right _ le

end Decimal

end TableChart
