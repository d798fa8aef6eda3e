import Mathlib.Tactic.Ring
import TableChart.Binary64.Basic

/-!
# Magnitudes in units

* `units_of_lt`      the first two binades are the whole numbers;
* `units_binade`     the rank and the units of a magnitude, by binade and fraction;
* `units_grid`       the same by exponent and significand, up to the first magnitude of the next
                     binade;
* `units_succ`       the distance of neighbours;
* `units_lt_units`   ranks are ordered as their magnitudes are;
* `unitsInOne`       the units that make one, and `units_rankCount` those of the first magnitude
                     that is too large.
-/

namespace TableChart

/-! ## the definitions with powers -/

theorem scale_eq (r : Nat) : scale r = r / 2 ^ 52 - 1 := rfl
theorem significand_eq (r : Nat) : significand r = r - scale r * 2 ^ 52 := rfl
theorem units_eq (r : Nat) : units r = significand r * 2 ^ scale r := rfl

/-! ## binades -/

theorem units_of_lt {r : Nat} (h : r < 2 ^ 53) : units r = r := by
  have e : scale r = 0 := by
    rw [scale_eq]
    omega
  rw [units_eq, significand_eq, e]
  omega

theorem scale_binade (e f : Nat) (h : f < 2 ^ 52) : scale ((e + 1) * 2 ^ 52 + f) = e := by
  rw [scale_eq]
  omega

theorem units_binade (e f : Nat) (h : f < 2 ^ 52) :
    units ((e + 1) * 2 ^ 52 + f) = (2 ^ 52 + f) * 2 ^ e := by
  have s : significand ((e + 1) * 2 ^ 52 + f) = 2 ^ 52 + f := by
    rw [significand_eq, scale_binade e f h]
    omega
  rw [units_eq, s, scale_binade e f h]

theorem units_zero : units 0 = 0 := units_of_lt (by omega)

/-- the multiples of `2 ^ e` with a significand of at most 53 bits -/
theorem units_grid {e m : Nat} (lo : e = 0 ∨ 2 ^ 52 ≤ m) (hi : m ≤ 2 ^ 53) :
    units (e * 2 ^ 52 + m) = m * 2 ^ e := by
  rcases Nat.eq_or_lt_of_le hi with rfl | hi
  · have k : e * 2 ^ 52 + 2 ^ 53 = (e + 1 + 1) * 2 ^ 52 + 0 := by omega
    rw [k, units_binade (e + 1) 0 (by omega)]
    ring
  · by_cases hm : 2 ^ 52 ≤ m
    · obtain ⟨f, rfl⟩ : ∃ f, m = 2 ^ 52 + f := ⟨m - 2 ^ 52, by omega⟩
      have k : e * 2 ^ 52 + (2 ^ 52 + f) = (e + 1) * 2 ^ 52 + f := by ring
      rw [k, units_binade e f (by omega)]
    · obtain rfl : e = 0 := lo.resolve_right hm
      rw [Nat.zero_mul, Nat.zero_add, units_of_lt hi]
      ring

/-! ## neighbours -/

theorem rank_eq (r : Nat) : r = scale r * 2 ^ 52 + significand r := by
  rw [significand_eq, scale_eq]
  omega

theorem significand_lt (r : Nat) : significand r < 2 ^ 53 := by
  rw [significand_eq, scale_eq]
  omega

theorem scale_eq_zero_or (r : Nat) : scale r = 0 ∨ 2 ^ 52 ≤ significand r := by
  rw [significand_eq, scale_eq]
  omega

theorem units_succ (r : Nat) : units (r + 1) = units r + 2 ^ scale r := by
  have next : units (scale r * 2 ^ 52 + (significand r + 1)) = (significand r + 1) * 2 ^ scale r :=
    units_grid ((scale_eq_zero_or r).imp_right (by omega)) (significand_lt r)
  rw [← Nat.add_assoc, ← rank_eq] at next
  rw [next, units_eq, Nat.succ_mul]

/-- in proportion, neighbours are at least `2 ^ -53` apart -/
theorem units_succ_le (r : Nat) : units (r + 1) ≤ 2 ^ 53 * 2 ^ scale r := by
  have le : (significand r + 1) * 2 ^ scale r ≤ 2 ^ 53 * 2 ^ scale r :=
    Nat.mul_le_mul_right _ (significand_lt r)
  rw [Nat.succ_mul, ← units_eq, ← units_succ] at le
  exact le

/-! ## order -/

theorem units_lt_succ (r : Nat) : units r < units (r + 1) := by
  rw [units_succ]
  exact Nat.lt_add_of_pos_right (Nat.two_pow_pos _)

theorem units_lt_units {r s : Nat} (h : r < s) : units r < units s := by
  induction s with
  | zero => omega
  | succ s ih =>
    have l := units_lt_succ s
    by_cases e : r = s
    · rw [e]
      exact l
    · exact Nat.lt_trans (ih (by omega)) l

theorem units_le_units {r s : Nat} (h : r ≤ s) : units r ≤ units s := by
  rcases Nat.eq_or_lt_of_le h with rfl | h
  · exact Nat.le_refl _
  · exact Nat.le_of_lt (units_lt_units h)

theorem units_pos {r : Nat} (h : 0 < r) : 0 < units r := units_zero ▸ units_lt_units h

/-! ## one -/

def unitsInOne : Nat := Nat.pow 2 1074

theorem two_pow_eq : Nat.pow 2 1074 = unitsInOne := by decide +kernel

theorem unitsInOne_pos : 0 < unitsInOne := by decide +kernel

theorem units_rankCount : units rankCount = 2 ^ 1024 * unitsInOne := by
  have k : rankCount = 2046 * 2 ^ 52 + 2 ^ 52 := rfl
  have e : (2 : Nat) ^ 2046 * 2 ^ 52 = 2 ^ 1024 * unitsInOne := by decide +kernel
  rw [k, units_grid (Or.inr (Nat.le_refl _)) (by omega), Nat.mul_comm, e]

end TableChart
