import TableChart.Decimal.Basic
import Mathlib.Data.List.TakeWhile
import Mathlib.Tactic.Ring

/-!
# Digits

* `ofDigitChars_lt`, `pow_le_ofDigitChars`   digits bound the number that they spell, and a first
                        digit other than zero bounds it from below;
* `ofDigitChars_dropWhile_zero`   zeros in front do not count;
* `lt_pow_digitCount`, `pow_digitCount_le`   the digits of a whole number place it between two powers
                        of ten;
* `head?_toDigits`      they do not begin with a zero, but for the number zero.
-/

namespace TableChart

/-! ## digits to numbers -/

theorem digit_le {c : Char} (h : c.isDigit) : c.toNat - '0'.toNat ≤ 9 := by
  have := Char.isDigit_iff_toNat.mp h
  have nine : '9'.toNat = '0'.toNat + 9 := rfl
  omega

theorem digit_pos {c : Char} (h : c.isDigit) (h0 : c ≠ '0') : 1 ≤ c.toNat - '0'.toNat := by
  have := Char.isDigit_iff_toNat.mp h
  have ne : c.toNat ≠ '0'.toNat := fun e => h0 (Char.toNat_inj.mp e)
  omega

theorem ofDigitChars_lt {cs : List Char} (h : ∀ c ∈ cs, c.isDigit) :
    Nat.ofDigitChars 10 cs 0 < 10 ^ cs.length := by
  induction cs with
  | nil => exact Nat.one_pos
  | cons c cs ih =>
    have digit := digit_le (h c List.mem_cons_self)
    have rest := ih fun d hd => h d (List.mem_cons_of_mem c hd)
    rw [Nat.ofDigitChars_cons, Nat.mul_zero, Nat.zero_add, Nat.ofDigitChars_eq_ofDigitChars_zero,
      List.length_cons]
    calc 10 ^ cs.length * (c.toNat - '0'.toNat) + Nat.ofDigitChars 10 cs 0
        < 10 ^ cs.length * (c.toNat - '0'.toNat) + 10 ^ cs.length := Nat.add_lt_add_left rest _
      _ ≤ 10 ^ cs.length * 9 + 10 ^ cs.length :=
        Nat.add_le_add_right (Nat.mul_le_mul_left _ digit) _
      _ = 10 ^ (cs.length + 1) := by ring

theorem pow_le_ofDigitChars {c : Char} (h : c.isDigit) (h0 : c ≠ '0') (cs : List Char) :
    10 ^ cs.length ≤ Nat.ofDigitChars 10 (c :: cs) 0 := by
  rw [Nat.ofDigitChars_cons, Nat.mul_zero, Nat.zero_add, Nat.ofDigitChars_eq_ofDigitChars_zero]
  calc 10 ^ cs.length ≤ 10 ^ cs.length * (c.toNat - '0'.toNat) :=
        Nat.le_mul_of_pos_right _ (digit_pos h h0)
    _ ≤ _ := Nat.le_add_right ..

theorem ofDigitChars_zeros {cs : List Char} (h : ∀ c ∈ cs, c = '0') :
    Nat.ofDigitChars 10 cs 0 = 0 := by
  rw [List.eq_replicate_of_mem h, Nat.ofDigitChars_replicate_zero, Nat.mul_zero]

theorem ofDigitChars_append_zeros {cs zeros : List Char} (h : ∀ c ∈ zeros, c = '0') :
    Nat.ofDigitChars 10 (cs ++ zeros) 0 = Nat.ofDigitChars 10 cs 0 * 10 ^ zeros.length := by
  rw [Nat.ofDigitChars_append, List.eq_replicate_of_mem h, Nat.ofDigitChars_replicate_zero,
    List.length_replicate, Nat.mul_comm]

theorem ofDigitChars_dropWhile_zero (cs : List Char) :
    Nat.ofDigitChars 10 (cs.dropWhile (· == '0')) 0 = Nat.ofDigitChars 10 cs 0 := by
  have zeros : ∀ c ∈ cs.takeWhile (· == '0'), c = '0' := by
    intro c hc
    have zero := List.mem_takeWhile_imp hc
    exact beq_iff_eq.mp zero
  conv_rhs => rw [← List.takeWhile_append_dropWhile (p := (· == '0')) (l := cs)]
  rw [Nat.ofDigitChars_append, ofDigitChars_zeros zeros]

theorem ofDigitChars_pos {cs : List Char} (h : ∀ c ∈ cs, c.isDigit) (h0 : ¬ ∀ c ∈ cs, c = '0') :
    0 < Nat.ofDigitChars 10 cs 0 := by
  rw [← ofDigitChars_dropWhile_zero]
  cases hd : cs.dropWhile (· == '0') with
  | nil =>
    refine absurd (fun c hc => ?_) h0
    have zero := List.dropWhile_eq_nil_iff.mp hd c hc
    exact beq_iff_eq.mp zero
  | cons c rest =>
    have mem : c ∈ cs := (List.dropWhile_sublist _).subset (hd ▸ List.mem_cons_self)
    have first : c ≠ '0' := by
      have head := List.head?_dropWhile_not (· == '0') cs
      rw [hd] at head
      simpa using head
    exact Nat.lt_of_lt_of_le (Nat.pow_pos (by omega)) (pow_le_ofDigitChars (h c mem) first rest)

/-! ## numbers to digits -/

theorem digitCount_pos (n : Nat) : 0 < digitCount n := Nat.length_toDigits_pos

theorem lt_pow_digitCount (n : Nat) : n < 10 ^ digitCount n :=
  (Nat.length_toDigits_le_iff (by omega) (digitCount_pos n)).mp (Nat.le_refl _)

theorem pow_digitCount_le {n : Nat} (h : 0 < n) : 10 ^ (digitCount n - 1) ≤ n := by
  by_contra hlt
  have hd := digitCount_pos n
  by_cases one : digitCount n = 1
  · rw [one] at hlt
    exact hlt h
  · have le : digitCount n ≤ digitCount n - 1 :=
      (Nat.length_toDigits_le_iff (by omega) (by omega)).mpr (Nat.lt_of_not_le hlt)
    omega

theorem isDigit_toDigits (n : Nat) : ∀ c ∈ Nat.toDigits 10 n, c.isDigit := fun _ hc =>
  Nat.isDigit_of_mem_toDigits (by omega) (by omega) hc

theorem head?_toDigits {n : Nat} (h : 0 < n) : (Nat.toDigits 10 n).head? ≠ some '0' := by
  intro zero
  obtain ⟨cs, hcs⟩ := List.head?_eq_some_iff.mp zero
  have le := pow_digitCount_le h
  have value : Nat.ofDigitChars 10 (Nat.toDigits 10 n) 0 = n := Nat.ofDigitChars_ten_toDigits
  have digits := isDigit_toDigits n
  rw [digitCount, hcs, List.length_cons, Nat.add_sub_cancel] at le
  rw [hcs, Nat.ofDigitChars_cons] at value
  rw [hcs] at digits
  have lt := ofDigitChars_lt fun c hc => digits c (List.mem_cons_of_mem _ hc)
  have rest : Nat.ofDigitChars 10 cs 0 = n := value
  omega

end TableChart
