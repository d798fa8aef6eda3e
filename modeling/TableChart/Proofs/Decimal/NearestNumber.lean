import TableChart.Proofs.Binary64.Nearest
import TableChart.Proofs.Decimal.Value

/-!
# Texts are read as the nearest number

* `Decimal.nearest_iff_rank`        a decimal is rounded to the finite number that is nearest to it;
* `Numeral.rounds_iff`              so is a numeral, with the sign that is written;
* `Numeral.exists_toFinite64?_iff`  a numeral that is too large is refused;
* `ReadsNearest s value`            exactly the texts with a spelling are read, as the nearest number to
                                    the `value` of the spelling;
* `reads_nearest`                   `value` is the exact one where the exponent is followed, as it is in
                                    every text of at most 65212 characters, and elsewhere that of the
                                    exponent that is read.
-/

namespace TableChart
open Finite64

namespace Decimal
variable {d : Decimal}

theorem nearest_iff_rank {r : Nat} (h : r < rankCount) : Nearest d.value ⟨false, r, h⟩ ↔ d.rank = r := by
  rw [value_eq, nearest_iff_roundsTo d.unitsDen_pos h, rank_eq, nearestRank_eq_iff d.unitsDen_pos]

theorem rank_lt_iff : d.rank < rankCount ↔ d.value < overflowBound := by
  constructor
  · intro h
    have nearest : Nearest d.value ⟨false, d.rank, h⟩ := (nearest_iff_rank h).mpr rfl
    exact lt_of_abs_lt nearest.in_range
  · intro h
    by_contra large
    have rounds := roundsTo_nearestRank d.unitsNum d.unitsDen_pos
    have le := overflowBound_le d.unitsDen_pos (Nat.le_of_not_lt large) rounds
    rw [← value_eq] at le
    exact absurd h (not_lt.mpr le)

end Decimal

/-! ## numerals -/

namespace Numeral
variable {n : Numeral} {x : Finite64}

theorem abs_value (n : Numeral) : |n.value| = n.magnitude.value := by
  have nonneg := n.magnitude.value_nonneg
  unfold value
  split
  · rw [abs_neg, abs_of_nonneg nonneg]
  · exact abs_of_nonneg nonneg

theorem rounds_iff : n.Rounds x ↔ x.negative = n.negative ∧ Nearest n.value x := by
  obtain ⟨negative, r, h⟩ := x
  have rounded : n.magnitude.rank = r ↔ Nearest n.magnitude.value ⟨false, r, h⟩ :=
    (Decimal.nearest_iff_rank h).symm
  have signed (sign : negative = n.negative) :
      Nearest n.value ⟨negative, r, h⟩ ↔ Nearest n.magnitude.value ⟨false, r, h⟩ := by
    subst sign
    unfold value
    cases n.negative with
    | false => exact Iff.rfl
    | true => exact nearest_opposite_iff (x := ⟨false, r, h⟩)
  constructor
  · rintro ⟨sign, rank⟩
    exact ⟨sign, (signed sign).mpr (rounded.mp rank.symm)⟩
  · rintro ⟨sign, nearest⟩
    exact ⟨sign, (rounded.mpr ((signed sign).mp nearest)).symm⟩

theorem exists_toFinite64?_iff (digits : ∀ c ∈ n.digits, c.isDigit) :
    (∃ x, n.toFinite64? = some x) ↔ |n.value| < overflowBound := by
  rw [abs_value, ← Decimal.rank_lt_iff]
  constructor
  · rintro ⟨x, h⟩
    rw [← ((toFinite64?_eq_some_iff digits).mp h).rank]
    exact x.rank_lt
  · intro h
    exact ⟨⟨n.negative, n.magnitude.rank, h⟩, (toFinite64?_eq_some_iff digits).mpr ⟨rfl, rfl⟩⟩

end Numeral

/-! ## texts -/

/-- exactly the texts that are spelled are read, unless `value` is too large, and as the number that
is nearest to it -/
structure ReadsNearest (s : String) (value : Spelling → ℚ) : Prop where
  accepts : (∃ x, readNumber? s = some x) ↔
    ∃ w : Spelling, w.text = Text.trim s.toList ∧ |value w| < overflowBound
  number : ∀ x, readNumber? s = some x ↔
    ∃ w : Spelling, w.text = Text.trim s.toList ∧ x.negative = w.sign.negative ∧ Nearest (value w) x

/-- it is enough that the exponent `e w` leads to the number that is read -/
theorem readsNearest_of {s : String} {e : Spelling → Int}
    (same : ∀ w : Spelling, w.text = Text.trim s.toList →
      w.numeral.toFinite64? = (w.withExponent (e w)).toFinite64?) :
    ReadsNearest s fun w => (w.withExponent (e w)).value where
  accepts := by
    simp only [readNumber?_eq_some_iff]
    constructor
    · rintro ⟨x, w, text, rounded⟩
      rw [same w text] at rounded
      exact ⟨w, text, (Numeral.exists_toFinite64?_iff w.all_digits).mp ⟨x, rounded⟩⟩
    · rintro ⟨w, text, in_range⟩
      obtain ⟨x, rounded⟩ := (Numeral.exists_toFinite64?_iff w.all_digits).mpr in_range
      exact ⟨x, w, text, (same w text).trans rounded⟩
  number x := by
    rw [readNumber?_eq_some_iff]
    refine exists_congr fun w => and_congr_right fun text => ?_
    rw [same w text, Numeral.toFinite64?_eq_some_iff w.all_digits, Numeral.rounds_iff]
    rfl

namespace Spelling
variable {w : Spelling}

/-- a text that is not very long has too few digits to make up for an exponent that is not followed -/
theorem followed_of_length (h : w.text.length + 324 ≤ exponentStop) : w.Followed := by
  have length : w.text.length
      = w.sign.text.length + (w.whole.length + (w.pointed.length + w.tail.length)) := by
    rw [text, List.length_append, List.length_append, List.length_append]
  have part : (w.part.getD []).length ≤ w.pointed.length := by
    unfold pointed
    cases w.part with
    | none => exact Nat.le_refl _
    | some ds => exact Nat.le_succ _
  exact Or.inr ⟨by omega, by omega⟩

end Spelling

/-- **Exactly the spelled numbers are read, and they are rounded correctly.** -/
theorem reads_nearest (s : String) :
    ReadsNearest s (fun w => w.numeral.value) ∧
      ((∀ w : Spelling, w.text = Text.trim s.toList → w.Followed) → ReadsNearest s Spelling.value) := by
  constructor
  · exact readsNearest_of fun _ _ => rfl
  · intro followed
    exact readsNearest_of fun w text => Spelling.toFinite64?_numeral (followed w text)

/-- halfway between `2 ^ 53` and the number that follows it, and so read as the even one of them -/
theorem reads_nearest_tie :
    let s := " 9007199254740993 "
    (∀ w : Spelling, w.text = Text.trim s.toList → w.Followed) ∧ ReadsNearest s Spelling.value ∧
      readNumber? s = some ⟨false, 1076 * Nat.pow 2 52, by decide⟩ := by
  intro s
  have trimmed : (Text.trim s.toList).length + 324 ≤ exponentStop := by decide
  have followed : ∀ w : Spelling, w.text = Text.trim s.toList → w.Followed := fun w text =>
    Spelling.followed_of_length (text.symm ▸ trimmed)
  have tie : readNumber? s = some ⟨false, 1076 * Nat.pow 2 52, by decide⟩ := by decide +kernel
  exact ⟨followed, (reads_nearest s).2 followed, tie⟩

/-! ### an exponent that is not followed to its end -/

namespace Spelling

theorem no_part_digits : ∀ c ∈ (none : Option (List Char)).getD [], c.isDigit := nofun

section
variable {zeros : List Char} (h : ∀ c ∈ zeros, c = '0') (e : SpelledExponent)
include h

theorem digits_one_zeros : ∀ c ∈ '1' :: zeros, c.isDigit :=
  List.forall_mem_cons.mpr ⟨rfl, fun c hc => h c hc ▸ rfl⟩

/-- `1` and some zeros, with an exponent -/
def longOne : Spelling where
  sign := .none
  whole := '1' :: zeros
  part := none
  exponent := some e
  whole_digits := digits_one_zeros h
  part_digits := no_part_digits
  some_digits := List.cons_ne_nil '1' _

variable {e} (minus : e.sign = .minus)
include minus

theorem value_longOne (number : e.number = zeros.length) : (longOne h e).value = 1 := by
  have coefficient : Nat.ofDigitChars 10 (longOne h e).digits 0 = 10 ^ zeros.length := by
    have digits : (longOne h e).digits = ['1'] ++ zeros := List.append_nil _
    rw [digits, ofDigitChars_append_zeros h]
    exact Nat.one_mul _
  have place : (longOne h e).exact.exponent = -(zeros.length : Int) := by
    show e.sign.apply e.number - (0 : Int) = _
    rw [minus, number, Int.sub_zero]
    rfl
  have value : (longOne h e).value
      = (Nat.ofDigitChars 10 (longOne h e).digits 0 : ℚ) * 10 ^ (longOne h e).exact.exponent := rfl
  rw [value, coefficient, place, Nat.cast_pow, zpow_neg, zpow_natCast]
  exact mul_inv_cancel₀ (pow_ne_zero _ (by norm_num))

/-- where the exponent is taken for a smaller one, the zeros make it too large -/
theorem rank_longOne (cut : exponentOf e.digits + 309 ≤ zeros.length) :
    (longOne h e).numeral.rank = rankCount := by
  have digits : (longOne h e).numeral.digits = '1' :: zeros := List.append_nil _
  have place : (longOne h e).numeral.exponent = -(exponentOf e.digits : Int) := by
    show e.sign.apply (exponentOf e.digits) - (0 : Int) = _
    rw [minus, Int.sub_zero]
    rfl
  have first : ('1' :: zeros).dropWhile (· == '0') = '1' :: zeros := rfl
  unfold Numeral.rank
  dsimp only
  rw [digits, first, place, List.length_cons, if_neg, if_pos]
  · omega
  · exact not_or.mpr ⟨List.cons_ne_nil _ _, by omega⟩

theorem refused_longOne (number : e.number = zeros.length)
    (cut : exponentOf e.digits + 309 ≤ zeros.length) :
    ∃ w : Spelling, w.text = '1' :: zeros ++ e.text ∧ w.value = 1 ∧
      let s := String.ofList w.text
      w.text = Text.trim s.toList ∧ readNumber? s = none ∧ ¬ ReadsNearest s Spelling.value := by
  have value := value_longOne h minus number
  have trimmed : (longOne h e).text = Text.trim (String.ofList (longOne h e).text).toList := by
    rw [String.toList_ofList, trim_text]
  have refused : readNumber? (String.ofList (longOne h e).text) = none := by
    rw [readNumber?, ← trimmed, (longOne h e).read?_text]
    refine dif_neg ?_
    rw [rank_longOne h minus cut]
    exact Nat.lt_irrefl _
  refine ⟨longOne h e, rfl, value, trimmed, refused, fun reads => ?_⟩
  have in_range : |(longOne h e).value| < overflowBound := by
    rw [value, abs_one]
    exact one_lt_overflowBound
  obtain ⟨x, read⟩ := reads.accepts.mpr ⟨longOne h e, trimmed, in_range⟩
  rw [refused] at read
  cases read

end

end Spelling

/-- a text that spells `1`, and it is refused -/
theorem late_exponent_refused :
    ∃ w : Spelling, w.text = '1' :: List.replicate 655360 '0' ++ "e-655360".toList ∧ w.value = 1 ∧
      let s := String.ofList w.text
      w.text = Text.trim s.toList ∧ readNumber? s = none ∧ ¬ ReadsNearest s Spelling.value := by
  have zeros : ∀ c ∈ List.replicate 655360 '0', c = '0' := fun _ => List.eq_of_mem_replicate
  have length : (List.replicate 655360 '0').length = 655360 := List.length_replicate
  generalize List.replicate 655360 '0' = ds at zeros length ⊢
  have digits : ∀ c ∈ "655360".toList, c.isDigit := List.all_eq_true.mp rfl
  have number : Nat.ofDigitChars 10 "655360".toList 0 = ds.length := by
    rw [length]
    rfl
  have read : exponentOf "655360".toList + 309 ≤ ds.length := by
    rw [length]
    decide
  exact Spelling.refused_longOne zeros
    (e := ⟨'e', .minus, "655360".toList, Or.inl rfl, by decide, digits⟩) rfl number read

end TableChart
