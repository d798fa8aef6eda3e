import TableChart.Proofs.Binary64.Bits
import TableChart.Proofs.Binary64.Value
import TableChart.Proofs.Decimal.ReadBack

/-!
# Canonical texts

* `negativeZero`                      the one finite number that is not read back bit for bit;
* `Finite64.withoutZeroSign_eq_iff`   without the sign of a zero, numbers at one position are one;
* `Finite64.canonical_identifies`     reading a canonical text undoes rendering, so a canonical text
                                      stands for one value.
-/

namespace TableChart

namespace Finite64

def negativeZero : Finite64 := { zero with negative := true }

theorem withoutZeroSign_of_ne {x : Finite64} (h : x ≠ negativeZero) : x.withoutZeroSign = x := by
  obtain ⟨negative, rank, rank_lt⟩ := x
  by_cases zero : rank = 0
  · subst zero
    cases negative with
    | false => rfl
    | true => exact absurd rfl h
  · exact if_neg zero

theorem withoutZeroSign_negativeZero : negativeZero.withoutZeroSign = zero := rfl

theorem withoutZeroSign_eq_iff (x y : Finite64) :
    x.withoutZeroSign = y.withoutZeroSign ↔ x.position = y.position := by
  constructor
  · intro h
    rw [← x.position_withoutZeroSign, h, y.position_withoutZeroSign]
  · obtain ⟨xnegative, xrank, xlt⟩ := x
    obtain ⟨ynegative, yrank, ylt⟩ := y
    intro h
    have magnitude : xrank = yrank := by
      cases xnegative <;> cases ynegative <;> simp [position] at h <;> omega
    subst magnitude
    by_cases zero : xrank = 0
    · exact (if_pos zero).trans (if_pos zero).symm
    · -- off zero the sign is told by the side
      have sign : xnegative = ynegative := by
        cases xnegative <;> cases ynegative <;> simp [position] at h ⊢ <;> omega
      rw [sign]

end Finite64

/-- **A canonical text stands for one value.**  It is read back as the number that was rendered, bit
for bit, except that `-0` comes back as `0`; so two numbers are rendered alike exactly if they are
equal. -/
theorem Finite64.canonical_identifies (x : Finite64) :
    (∃ y, readNumber? (Binary64.finite x).canonical = some y ∧
      (Binary64.finite y).toBits =
        if (Binary64.finite x).toBits = 0x8000000000000000 then 0 else (Binary64.finite x).toBits) ∧
    ∀ y : Finite64, (Binary64.finite x).canonical = (Binary64.finite y).canonical ↔
      x.value = y.value := by
  refine ⟨⟨x.withoutZeroSign, readNumber?_canonical x, ?_⟩, fun y => ?_⟩
  · have negative_zero : (Binary64.finite negativeZero).toBits = 0x8000000000000000 := rfl
    by_cases h : x = negativeZero
    · rw [h, if_pos negative_zero, withoutZeroSign_negativeZero]
      rfl
    · rw [withoutZeroSign_of_ne h, if_neg]
      rw [← negative_zero]
      exact fun bits => h (Binary64.toBits_finite_inj bits)
  · rw [value_eq_iff, ← withoutZeroSign_eq_iff]
    constructor
    · intro same
      have read := readNumber?_canonical x
      have same : String.ofList x.canonical = String.ofList y.canonical := same
      rw [same, readNumber?_canonical y] at read
      exact (Option.some.inj read).symm
    · intro same
      have text : x.canonical = y.canonical := by
        rw [← x.canonical_withoutZeroSign, same, y.canonical_withoutZeroSign]
      exact congrArg String.ofList text

end TableChart
