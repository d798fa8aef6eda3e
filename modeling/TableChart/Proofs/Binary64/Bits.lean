import TableChart.Binary64.Basic
import Mathlib.Algebra.Group.Nat.Defs

/-!
# The interchange format

* `ofBits_toBits`   a finite number is found again in its bits, so numbers with the same bits are the
                    same (`toBits_finite_inj`).

The rank of a finite number is less than `2 ^ 63`, so the sign bit stands above it.
-/

namespace TableChart.Binary64

theorem rankCount_lt_signBit : rankCount < 2 ^ 63 := by decide

theorem toBits_finite (x : Finite64) :
    (finite x).toBits = UInt64.ofNat (if x.negative then 2 ^ 63 + x.rank else x.rank) := rfl

theorem toNat_toBits_finite (x : Finite64) :
    (finite x).toBits.toNat = if x.negative then 2 ^ 63 + x.rank else x.rank := by
  have lt := Nat.lt_trans x.rank_lt rankCount_lt_signBit
  rw [toBits_finite, UInt64.toNat_ofNat']
  split <;> omega

theorem ofBits_eq (bits : UInt64) :
    ofBits bits = if h : bits.toNat % 2 ^ 63 < rankCount then
        finite ⟨decide (2 ^ 63 ≤ bits.toNat), bits.toNat % 2 ^ 63, h⟩
      else if bits.toNat % 2 ^ 63 = rankCount then infinite (decide (2 ^ 63 ≤ bits.toNat))
      else nan := rfl

theorem ofBits_toBits (x : Finite64) : ofBits (finite x).toBits = finite x := by
  have lt := Nat.lt_trans x.rank_lt rankCount_lt_signBit
  have bits := toNat_toBits_finite x
  obtain ⟨negative, rank, rank_lt⟩ := x
  have rest : (finite ⟨negative, rank, rank_lt⟩).toBits.toNat % 2 ^ 63 = rank := by
    cases negative <;> simp_all
  have sign : decide (2 ^ 63 ≤ (finite ⟨negative, rank, rank_lt⟩).toBits.toNat) = negative := by
    cases negative <;> simp_all
  rw [ofBits_eq]
  simp only [rest, sign, rank_lt, dif_pos]

theorem toBits_finite_inj {x y : Finite64} (h : (finite x).toBits = (finite y).toBits) : x = y := by
  have same := congrArg ofBits h
  rw [ofBits_toBits, ofBits_toBits] at same
  exact finite.inj same

end TableChart.Binary64
