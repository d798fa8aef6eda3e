import TableChart.Proofs.Decimal.Fewest
import TableChart.Proofs.Decimal.NearestNumber

/-!
# Canonical texts have the form of ECMAScript

* `layout s n`                   the digits `s` with the point after `n` of them: the layout is chosen
                                 by `n`;
* `ShortestDigits x s n`         digits that round to `x`, as few as possible and then as near as
                                 possible;
* `Fewest.place_iff_rank`        where the point stands is told by comparing with the numbers `1e-6` and
                                 `1e21`: next to these, rounding to fewer digits does not move it;
* `canonicalMagnitude_eq_layout`   so the layout that a comparison chooses is the one that the place
                                 asks for.
-/

namespace TableChart
open Finite64

/-! ## layouts -/

/-- the digits `s` with the point after `n` of them -/
def layout (s : List Char) (n : Int) : List Char :=
  if s.length ≤ n ∧ n ≤ 21 then s ++ List.replicate (n - s.length).toNat '0'
  else if 0 < n ∧ n ≤ 21 then s.take n.toNat ++ '.' :: s.drop n.toNat
  else if -6 < n ∧ n ≤ 0 then '0' :: '.' :: (List.replicate (-n).toNat '0' ++ s)
  else Decimal.pointed s ++ 'e' :: (if n - 1 < 0 then '-' else '+') :: digitChars (n - 1).natAbs

section
variable {d : Decimal}

theorem Decimal.positional_eq_layout (h : -6 < d.lead ∧ d.lead ≤ 21) :
    d.positional = layout (digitChars d.coefficient) d.lead := by
  have lead := d.lead_eq
  rw [← length_digitChars] at lead
  unfold positional layout
  dsimp only
  generalize digitChars d.coefficient = s at lead ⊢
  by_cases whole : 0 ≤ d.exponent
  · have fits : (s.length : Int) ≤ d.lead ∧ d.lead ≤ 21 := by omega
    have zeros : d.exponent = d.lead - s.length := by omega
    rw [if_pos whole, if_pos fits, zeros]
  · have cut : ¬ ((s.length : Int) ≤ d.lead ∧ d.lead ≤ 21) := by omega
    rw [if_neg whole, if_neg cut]
    by_cases before : 0 < d.lead
    · rw [if_pos before, if_pos ⟨before, h.2⟩]
    · have none_before : ¬ (0 < d.lead ∧ d.lead ≤ 21) := by omega
      rw [if_neg before, if_neg none_before, if_pos ⟨h.1, by omega⟩]

theorem Decimal.scientific_eq_layout (h : ¬ (-6 < d.lead ∧ d.lead ≤ 21)) :
    d.scientific = layout (digitChars d.coefficient) d.lead := by
  have some_digits := digitCount_pos d.coefficient
  rw [← length_digitChars] at some_digits
  have far : ¬ (((digitChars d.coefficient).length : Int) ≤ d.lead ∧ d.lead ≤ 21) ∧
      ¬ (0 < d.lead ∧ d.lead ≤ 21) ∧ ¬ (-6 < d.lead ∧ d.lead ≤ 0) := by omega
  unfold scientific layout
  rw [if_neg far.1, if_neg far.2.1, if_neg far.2.2]

end

/-! ## digits -/

def digitsValue (s : List Char) (n : Int) : ℚ := Nat.ofDigitChars 10 s 0 * 10 ^ (n - s.length)

def Finite64.withoutSign (x : Finite64) : Finite64 := { x with negative := false }

/-- digits that round to the magnitude of `x`; nothing with fewer digits does, and nothing with as many
that does is nearer -/
structure ShortestDigits (x : Finite64) (s : List Char) (n : Int) : Prop where
  digits : ∀ c ∈ s, c.isDigit
  some_digits : s ≠ []
  first : s.head? ≠ some '0'
  last : s.getLast? ≠ some '0'
  rounds : Nearest (digitsValue s n) x.withoutSign
  fewest : ∀ (t : List Char) (m : Int), (∀ c ∈ t, c.isDigit) → Nearest (digitsValue t m) x.withoutSign →
    s.length ≤ t.length
  closest : ∀ (t : List Char) (m : Int), (∀ c ∈ t, c.isDigit) → t.length = s.length →
    Nearest (digitsValue t m) x.withoutSign →
    |digitsValue s n - x.withoutSign.value| ≤ |digitsValue t m - x.withoutSign.value|

theorem Finite64.value_withoutSign (x : Finite64) : x.withoutSign.value = rankValue x.rank :=
  value_of_rank x.rank_lt

theorem Finite64.abs_value (x : Finite64) : |x.value| = x.withoutSign.value := by
  rw [x.abs_value_eq, x.value_withoutSign]

theorem nearest_digitsValue_iff {x : Finite64} {t : List Char} {m : Int} :
    Nearest (digitsValue t m) x.withoutSign ↔
      (⟨Nat.ofDigitChars 10 t 0, m - t.length⟩ : Decimal).rank = x.rank :=
  Decimal.nearest_iff_rank (d := ⟨Nat.ofDigitChars 10 t 0, m - t.length⟩) x.rank_lt

theorem digitsValue_eq (t : List Char) (m : Int) :
    digitsValue t m = (⟨Nat.ofDigitChars 10 t 0, m - t.length⟩ : Decimal).value := rfl

theorem digitsValue_digitChars (d : Decimal) : digitsValue (digitChars d.coefficient) d.lead = d.value := by
  have places : d.lead - (digitChars d.coefficient).length = d.exponent := by
    rw [length_digitChars, d.lead_eq]
    omega
  rw [digitsValue, ofDigitChars_digitChars, places]
  rfl

theorem head?_digitChars {n : Nat} (h : 0 < n) : (digitChars n).head? ≠ some '0' := head?_toDigits h

theorem getLast?_digitChars {n : Nat} (h : n % 10 ≠ 0) : (digitChars n).getLast? ≠ some '0' := by
  intro zero
  obtain ⟨cs, hcs⟩ := List.getLast?_eq_some_iff.mp zero
  have value := ofDigitChars_digitChars n
  have single : ∀ c ∈ ['0'], c = '0' := fun c hc => List.mem_singleton.mp hc
  rw [hcs, ofDigitChars_append_zeros single, List.length_singleton, pow_one] at value
  omega

/-! ## the digits that are chosen -/

namespace Fewest
variable {x : Finite64} {d : Decimal} (h : Fewest x.rank d) (hx : 0 < x.rank)
include h hx

theorem shortestDigits : ShortestDigits x (digitChars d.coefficient) d.lead where
  digits := isDigit_digitChars
  some_digits := digitChars_ne_nil _
  first := head?_digitChars (h.coefficient_pos hx)
  last := getLast?_digitChars (h.coefficient_mod_ten hx)
  rounds := by
    rw [digitsValue_digitChars]
    exact (Decimal.nearest_iff_rank x.rank_lt).mpr h.rank
  fewest t m digits rounds := by
    rw [length_digitChars]
    exact h.fewest _ t.length (nearest_digitsValue_iff.mp rounds) (ofDigitChars_lt digits)
  closest t m digits length rounds := by
    have lt := ofDigitChars_lt digits
    rw [length, length_digitChars] at lt
    rw [digitsValue_digitChars, digitsValue_eq, x.value_withoutSign]
    exact h.closest _ (nearest_digitsValue_iff.mp rounds) lt

end Fewest

/-! ## the places of the point -/

theorem lt_power_iff {x b : Finite64} {p : Int} (hb : Nearest (10 ^ p) b) :
    |x.value| < b.value ↔ x.rank < (⟨1, p⟩ : Decimal).rank := by
  rw [← Decimal.value_one] at hb
  have lt : (⟨1, p⟩ : Decimal).rank < rankCount := Decimal.rank_lt_iff.mpr (lt_of_abs_lt hb.in_range)
  have same := hb.value_unique ((Decimal.nearest_iff_rank lt).mpr rfl)
  rw [same, x.abs_value, value_lt_iff]
  exact Int.ofNat_lt

namespace Fewest
variable {x : Finite64} {d : Decimal} (h : Fewest x.rank d) (hx : 0 < x.rank)
include h hx

theorem place_iff_rank :
    -6 < d.lead ∧ d.lead ≤ 21 ↔ positionalFrom ≤ x.rank ∧ x.rank < scientificFrom := by
  have small := h.lead_le_iff hx (p := -6) (by decide +kernel)
  have large := h.lead_le_iff hx (p := 21) (by decide +kernel)
  unfold positionalFrom scientificFrom
  rw [large, ← Nat.not_lt, ← small, not_le]

theorem place_iff {a b : Finite64} (ha : Nearest (10 ^ (-6 : Int)) a)
    (hb : Nearest (10 ^ (21 : Int)) b) :
    -6 < d.lead ∧ d.lead ≤ 21 ↔ a.value ≤ |x.value| ∧ |x.value| < b.value := by
  rw [h.place_iff_rank hx, lt_power_iff hb, ← not_lt (a := |x.value|), lt_power_iff ha, not_lt]
  exact Iff.rfl

end Fewest

/-- comparing with `1e-6` and `1e21` chooses the layout that the place of the point asks for -/
theorem canonicalMagnitude_eq_layout {x : Finite64} (hx : 0 < x.rank) :
    canonicalMagnitude x.rank
      = layout (digitChars (shortestDecimal x.rank).coefficient) (shortestDecimal x.rank).lead := by
  have place := (fewest_shortestDecimal hx).place_iff_rank hx
  unfold canonicalMagnitude
  split
  · rename_i between
    exact Decimal.positional_eq_layout (place.mpr between)
  · rename_i beyond
    exact Decimal.scientific_eq_layout (mt place.mp beyond)

/-! ## canonical texts -/

/-- **A canonical text is laid out as ECMAScript does.**  The digits are the fewest that are read back,
and of these the nearest; the layout is chosen by the place of their point, which is the same as
comparing the magnitude with `1e-6` and `1e21`. -/
theorem canonical_shortest_digits (x : Finite64) :
    (x.value = 0 → (Binary64.finite x).canonical = "0") ∧
    (x.value ≠ 0 → ∃ s n, ShortestDigits x s n ∧
      (Binary64.finite x).canonical = String.ofList (signed (x.value < 0) (layout s n)) ∧
      ∀ a b : Finite64, Nearest (10 ^ (-6 : Int)) a → Nearest (10 ^ (21 : Int)) b →
        (-6 < n ∧ n ≤ 21 ↔ a.value ≤ |x.value| ∧ |x.value| < b.value)) := by
  rw [Ne, x.value_eq_zero_iff]
  constructor
  · intro zero
    exact congrArg String.ofList (if_pos zero)
  · intro some_rank
    have hx := Nat.pos_of_ne_zero some_rank
    have chosen := fewest_shortestDecimal hx
    have sign : decide (x.value < 0) = x.negative := by
      rw [Bool.eq_iff_iff, decide_eq_true_iff, value_neg_iff hx]
    have text : x.canonical = signed x.negative (canonicalMagnitude x.rank) := if_neg some_rank
    refine ⟨_, _, chosen.shortestDigits hx, ?_, fun a b => chosen.place_iff hx⟩
    rw [sign, ← canonicalMagnitude_eq_layout hx, ← text]
    rfl

/-- the number below `1e21`: rounding it to fewer digits does not move the point -/
theorem canonical_shortest_digits_below_threshold :
    let x : Finite64 := ⟨false, 0x444B1AE4D6E2EF4F, by decide⟩
    x.value ≠ 0 ∧ (Binary64.finite x).canonical = "999999999999999900000" ∧
      ∃ s n, ShortestDigits x s n ∧ (Binary64.finite x).canonical = String.ofList (layout s n) := by
  intro x
  have some_value : x.value ≠ 0 := by
    rw [Ne, x.value_eq_zero_iff]
    decide
  have text : (Binary64.finite x).canonical = "999999999999999900000" := by decide +kernel
  obtain ⟨s, n, shortest, canonical, -⟩ := (canonical_shortest_digits x).2 some_value
  have positive : ¬ x.value < 0 := by
    rw [value_neg_iff (by decide)]
    decide
  rw [decide_eq_false positive] at canonical
  exact ⟨some_value, text, s, n, shortest, canonical⟩

end TableChart
