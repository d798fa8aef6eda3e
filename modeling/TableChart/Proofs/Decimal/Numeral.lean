import TableChart.Decimal.Numeral
import TableChart.Proofs.Decimal.Digits
import TableChart.Proofs.Decimal.Rank

/-!
# Numerals are rounded as the decimals they stand for

* `roundsTo_between`      a decimal between neighbouring multiples of `10 ^ -1075` is rounded as these
                          say, wherever it lies between them;
* `rank_jammed`           so the digits behind that place can be jammed into one;
* `Numeral.rank_eq_iff`   the rank that is found fast is the rank of the magnitude, as long as it is
                          not too large.

A half between magnitudes is a multiple of `2 ^ -1075`, and so of `10 ^ -1075`.
-/

namespace TableChart

/-! ## jammed digits -/

/-- `k` stands for `5 ^ 1075`: a half is `k` times as many multiples of `10 ^ -1075` -/
theorem roundsTo_between {c j n k : Nat} (hk : 10 ^ 1075 = k * (2 * unitsInOne))
    (lower : c * 10 ^ j < n) (upper : n < (c + 1) * 10 ^ j) (r : Nat) :
    RoundsTo (n * unitsInOne) (10 ^ (1075 + j)) r ↔
      (units (r - 1) + units r) * k ≤ c ∧ c < (units r + units (r + 1)) * k := by
  have hj : 0 < 10 ^ j := Nat.pow_pos (by omega)
  have hu : 0 < 2 * unitsInOne := Nat.mul_pos (by omega) unitsInOne_pos
  have twice : 2 * (n * unitsInOne) = n * (2 * unitsInOne) := Nat.mul_left_comm ..
  have places (half : Nat) :
      half * 10 ^ (1075 + j) = half * k * 10 ^ j * (2 * unitsInOne) := by
    rw [pow_add, hk]
    ring
  generalize 2 * unitsInOne = u at hu twice places
  constructor
  · rintro ⟨hl, hr⟩
    rw [places, twice] at hl hr
    have hl := Nat.le_of_mul_le_mul_right (Nat.le_trans (Nat.le_add_right ..) hl) hu
    have hr := Nat.le_of_mul_le_mul_right (Nat.le_trans (Nat.le_add_right ..) hr) hu
    exact ⟨Nat.le_of_lt_succ (Nat.lt_of_mul_lt_mul_right (Nat.lt_of_le_of_lt hl upper)),
      Nat.lt_of_mul_lt_mul_right (Nat.lt_of_lt_of_le lower hr)⟩
  · rintro ⟨hl, hr⟩
    -- between the multiples there is room for the remainder of an odd rank
    have hl := Nat.lt_of_le_of_lt (Nat.mul_le_mul_right (10 ^ j) hl) lower
    have hr := Nat.lt_of_lt_of_le upper (Nat.mul_le_mul_right (10 ^ j) hr)
    have hl := Nat.mul_le_mul_right u hl
    have hr := Nat.mul_le_mul_right u hr
    rw [Nat.succ_mul] at hl hr
    refine ⟨?_, ?_⟩ <;> rw [places, twice] <;> omega

theorem rank_eq_of_between {c i j m n : Nat} (lower : c * 10 ^ i < m) (upper : m < (c + 1) * 10 ^ i)
    (lower' : c * 10 ^ j < n) (upper' : n < (c + 1) * 10 ^ j) :
    (⟨m, -(1075 + i : Nat)⟩ : Decimal).rank = (⟨n, -(1075 + j : Nat)⟩ : Decimal).rank := by
  obtain ⟨k, hk⟩ : ∃ k, 10 ^ 1075 = k * (2 * unitsInOne) := ⟨5 ^ 1075, by decide +kernel⟩
  rw [Decimal.rank_eq, nearestRank_eq_iff (Decimal.unitsDen_pos _), Decimal.unitsNum_neg,
    Decimal.unitsDen_neg, roundsTo_between hk lower upper, ← roundsTo_between hk lower' upper',
    ← Decimal.unitsNum_neg, ← Decimal.unitsDen_neg n, ← nearestRank_eq_iff (Decimal.unitsDen_pos _),
    ← Decimal.rank_eq]

theorem rank_jammed {ds : List Char} (digits : ∀ c ∈ ds, c.isDigit) {e : Int}
    (lead : -1075 ≤ ds.length + e) :
    (Numeral.jammed ds e).rank = (⟨Nat.ofDigitChars 10 ds 0, e⟩ : Decimal).rank := by
  unfold Numeral.jammed
  dsimp only
  generalize hk : (ds.length + e + Numeral.halfPlaces).toNat = keep
  have parts := List.take_append_drop keep ds
  have length : (ds.drop keep).length = ds.length - keep := List.length_drop
  have cut_digits : ∀ c ∈ ds.drop keep, c.isDigit := fun c hc => digits c (List.mem_of_mem_drop hc)
  generalize ds.take keep = kept at parts
  generalize ds.drop keep = cut at parts length cut_digits
  rw [← parts]
  split
  · rename_i zeros
    have zeros : ∀ c ∈ cut, c = '0' := fun c hc => beq_iff_eq.mp (List.all_eq_true.mp zeros c hc)
    rw [ofDigitChars_append_zeros zeros, Decimal.rank_shift]
  · rename_i others
    have others : ¬ ∀ c ∈ cut, c = '0' := fun zeros =>
      others (List.all_eq_true.mpr fun c hc => beq_iff_eq.mpr (zeros c hc))
    have pos := ofDigitChars_pos cut_digits others
    have lt := ofDigitChars_lt cut_digits
    have value : Nat.ofDigitChars 10 (kept ++ cut) 0
        = Nat.ofDigitChars 10 kept 0 * 10 ^ cut.length + Nat.ofDigitChars 10 cut 0 := by
      rw [Nat.ofDigitChars_append, Nat.ofDigitChars_eq_ofDigitChars_zero, Nat.mul_comm]
    have some_cut : cut.length ≠ 0 := fun none => others (by simp [List.length_eq_zero_iff.mp none])
    have places : e = -((1075 + cut.length : Nat) : Int) := by
      unfold Numeral.halfPlaces at hk
      omega
    have one : e + cut.length - 1 = -((1075 + 1 : Nat) : Int) := by omega
    rw [value, one, places]
    refine rank_eq_of_between (c := Nat.ofDigitChars 10 kept 0) ?_ ?_ ?_ ?_
    · omega
    · omega
    · omega
    · rw [Nat.succ_mul]
      omega

/-! ## numerals -/

namespace Numeral

theorem rank_eq_iff {n : Numeral} (digits : ∀ c ∈ n.digits, c.isDigit) {r : Nat}
    (hr : r < rankCount) : n.rank = r ↔ n.magnitude.rank = r := by
  have value := ofDigitChars_dropWhile_zero n.digits
  have mem : ∀ c ∈ n.digits.dropWhile (· == '0'), c ∈ n.digits := fun c hc =>
    (List.dropWhile_sublist _).subset hc
  have first := List.head?_dropWhile_not (· == '0') n.digits
  unfold rank magnitude
  rw [← value]
  generalize n.digits.dropWhile (· == '0') = ds at mem first
  have digits : ∀ c ∈ ds, c.isDigit := fun c hc => digits c (mem c hc)
  dsimp only
  split
  · rename_i small
    have zero : (⟨Nat.ofDigitChars 10 ds 0, n.exponent⟩ : Decimal).rank = 0 := by
      rcases small with rfl | lead
      · exact Decimal.rank_eq_zero_of_coefficient rfl
      · exact Decimal.rank_eq_zero (ofDigitChars_lt digits) lead
    rw [zero]
  · rename_i some_digits
    rw [not_or] at some_digits
    split
    · rename_i large
      obtain ⟨c, cs, rfl⟩ := List.exists_cons_of_ne_nil some_digits.1
      have hc : c ≠ '0' := by simpa using first
      have le : rankCount ≤ (⟨Nat.ofDigitChars 10 (c :: cs) 0, n.exponent⟩ : Decimal).rank := by
        refine Decimal.rankCount_le_rank (pow_le_ofDigitChars (digits c List.mem_cons_self) hc cs) ?_
        rw [List.length_cons] at large
        show 309 ≤ (cs.length : Int) + n.exponent
        omega
      constructor <;> omega
    · rw [rank_jammed digits (by omega)]

theorem toFinite64?_eq {n : Numeral} {x : Finite64} (hn : n.negative = x.negative)
    (hr : n.rank = x.rank) : n.toFinite64? = some x := by
  obtain ⟨negative, rank, lt⟩ := x
  obtain rfl : n.negative = negative := hn
  obtain rfl : n.rank = rank := hr
  exact dif_pos lt

end Numeral

end TableChart
