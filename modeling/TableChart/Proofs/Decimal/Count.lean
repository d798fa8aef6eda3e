import TableChart.Decimal.Count
import TableChart.Proofs.Decimal.Digits

/-!
# Counts and their digits

* `countFrom_digits`      digits are read to the number that they spell, if it is below the bound;
* `readCount_toDigits`    so the decimal digits of a count are read back;
* `toDigits_inj`          different counts have different digits;
* `readCount_lt`          whatever is read is below the bound.
-/

namespace TableChart

theorem le_ofDigitChars (n : Nat) (cs : List Char) : n ≤ Nat.ofDigitChars 10 cs n := by
  rw [Nat.ofDigitChars_eq_ofDigitChars_zero]
  calc n ≤ 10 ^ cs.length * n := Nat.le_mul_of_pos_left n (Nat.pow_pos (by omega))
    _ ≤ _ := Nat.le_add_right ..

/-- no part of the digits spells more than all of them -/
theorem countFrom_digits {cs : List Char} (h : ∀ c ∈ cs, c.isDigit) {n : Nat}
    (small : Nat.ofDigitChars 10 cs n < countBound) :
    countFrom n cs = .ok (Nat.ofDigitChars 10 cs n) := by
  induction cs generalizing n with
  | nil => rfl
  | cons c cs ih =>
    rw [Nat.ofDigitChars_cons] at small ⊢
    rw [countFrom, if_pos (h c List.mem_cons_self)]
    dsimp only
    rw [if_pos (Nat.lt_of_le_of_lt (le_ofDigitChars _ cs) small)]
    exact ih (fun d hd => h d (List.mem_cons_of_mem c hd)) small

/-- digits do not begin with a plus -/
theorem readCount_eq_countFrom (text : String) (ne : text.toList ≠ [])
    (h : ∀ c ∈ text.toList, c.isDigit) : readCount text = countFrom 0 text.toList := by
  unfold readCount
  cases digits : text.toList with
  | nil => exact absurd digits ne
  | cons c cs =>
    have digit := h c (digits ▸ List.mem_cons_self)
    have plus : c ≠ '+' := by
      rintro rfl
      exact absurd digit (by decide)
    split <;> simp_all

theorem readCount_toDigits {n : Nat} (h : n < countBound) :
    readCount (String.ofList (Nat.toDigits 10 n)) = .ok n := by
  have spelled : Nat.ofDigitChars 10 (Nat.toDigits 10 n) 0 = n := Nat.ofDigitChars_ten_toDigits
  have digits := isDigit_toDigits n
  have small : Nat.ofDigitChars 10 (Nat.toDigits 10 n) 0 < countBound := by rwa [spelled]
  have whole := readCount_eq_countFrom (String.ofList (Nat.toDigits 10 n))
  rw [String.toList_ofList] at whole
  rw [whole Nat.toDigits_ne_nil digits, countFrom_digits digits small, spelled]

theorem toDigits_inj {n m : Nat}
    (h : String.ofList (Nat.toDigits 10 n) = String.ofList (Nat.toDigits 10 m)) : n = m := by
  have digits : Nat.toDigits 10 n = Nat.toDigits 10 m := String.ofList_injective h
  have spelled := congrArg (Nat.ofDigitChars 10 · 0) digits
  rwa [Nat.ofDigitChars_ten_toDigits, Nat.ofDigitChars_ten_toDigits] at spelled

theorem countFrom_lt {cs : List Char} {n m : Nat} (small : n < countBound)
    (h : countFrom n cs = .ok m) : m < countBound := by
  induction cs generalizing n with
  | nil =>
    cases h
    exact small
  | cons c cs ih =>
    rw [countFrom] at h
    dsimp only at h
    split at h
    · split at h
      · rename_i within
        exact ih within h
      · cases h
    · cases h

theorem readCount_lt {text : String} {n : Nat} (h : readCount text = .ok n) : n < countBound := by
  have zero : 0 < countBound := by decide
  unfold readCount at h
  split at h
  · cases h
  · cases h
  · exact countFrom_lt zero h
  · exact countFrom_lt zero h

end TableChart
