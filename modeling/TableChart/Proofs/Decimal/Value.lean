import Mathlib.Algebra.Order.Field.Rat
import Mathlib.Algebra.Order.Field.Basic
import Mathlib.Data.Rat.Cast.Order
import TableChart.Proofs.Decimal.Numeral
import TableChart.Proofs.Decimal.Spelling

/-!
# The exact value of a numeral

* `Decimal.value`, `Numeral.value`, `Spelling.value`   what is written, as a rational;
* `Decimal.rank_mono`       rounding is monotone in it;
* `Numeral.Rounds`          a finite number that is a numeral rounded to the nearest: what a numeral is
                            read as (`Numeral.toFinite64?_eq_some_iff`);
* `Numeral.Rounds.position_mono`   the numbers of two numerals stand in their order, or at one place;
* `Spelling.rounds`         a number that is read is the exact numeral rounded, if its exponent is
                            followed.
-/

namespace TableChart

/-! ## decimals -/

namespace Decimal

def value (d : Decimal) : ℚ := d.coefficient * 10 ^ d.exponent

theorem value_nonneg (d : Decimal) : 0 ≤ d.value :=
  mul_nonneg (Nat.cast_nonneg _) (zpow_nonneg (by norm_num) _)

/-- a power of ten as a quotient of two that are whole -/
theorem pow_places (x : Int) : (10 : ℚ) ^ x * 10 ^ (-x).toNat = 10 ^ x.toNat := by
  rw [← zpow_natCast, ← zpow_natCast, ← zpow_add₀ (by norm_num)]
  congr 1
  omega

theorem value_eq (d : Decimal) : d.value = d.unitsNum / d.unitsDen / unitsInOne := by
  have units : (unitsInOne : ℚ) ≠ 0 := Nat.cast_ne_zero.mpr (Nat.ne_of_gt unitsInOne_pos)
  have den : (10 : ℚ) ^ (-d.exponent).toNat ≠ 0 := pow_ne_zero _ (by norm_num)
  rw [unitsNum_eq, unitsDen_eq, value, Nat.cast_mul, Nat.cast_mul, Nat.cast_pow, Nat.cast_pow,
    Nat.cast_ofNat, eq_div_iff units, eq_div_iff den, ← pow_places d.exponent]
  ring

theorem rank_mono {d d' : Decimal} (h : d.value ≤ d'.value) : d.rank ≤ d'.rank := by
  have units : (0 : ℚ) < unitsInOne := Nat.cast_pos.mpr unitsInOne_pos
  have den : (0 : ℚ) < d.unitsDen := Nat.cast_pos.mpr d.unitsDen_pos
  have den' : (0 : ℚ) < d'.unitsDen := Nat.cast_pos.mpr d'.unitsDen_pos
  rw [value_eq, value_eq, div_le_div_iff_of_pos_right units, div_le_div_iff₀ den den'] at h
  exact nearestRank_mono d.unitsDen_pos d'.unitsDen_pos (by exact_mod_cast h)

theorem rank_of_value_nonpos {d : Decimal} (h : d.value ≤ 0) : d.rank = 0 := by
  have zero : (⟨0, 0⟩ : Decimal).value = 0 := by simp [value]
  have rank : (⟨0, 0⟩ : Decimal).rank = 0 := rank_eq_zero_of_coefficient rfl
  exact Nat.le_zero.mp (rank ▸ rank_mono (h.trans zero.ge))

end Decimal

/-! ## numerals -/

namespace Numeral

def value (n : Numeral) : ℚ := if n.negative then -n.magnitude.value else n.magnitude.value

structure Rounds (n : Numeral) (x : Finite64) : Prop where
  sign : x.negative = n.negative
  rank : x.rank = n.magnitude.rank

theorem Rounds.position_mono {m n : Numeral} {x y : Finite64} (hx : m.Rounds x) (hy : n.Rounds y)
    (h : m.value ≤ n.value) : x.position ≤ y.position := by
  have left := m.magnitude.value_nonneg
  have right := n.magnitude.value_nonneg
  unfold value at h
  unfold Finite64.position
  rw [hx.sign, hy.sign, hx.rank, hy.rank]
  have mono {a b : Decimal} (h : a.value ≤ b.value) : (a.rank : Int) ≤ b.rank :=
    Int.ofNat_le.mpr (Decimal.rank_mono h)
  cases hm : m.negative <;> cases hn : n.negative <;>
    simp only [hm, hn, if_true, if_false, Bool.false_eq_true] at h ⊢
  · exact mono h
  · -- what is at most zero on the right of it is zero
    have zero := Decimal.rank_of_value_nonpos (h.trans (neg_nonpos.mpr right))
    have zero' := Decimal.rank_of_value_nonpos (neg_nonneg.mp (left.trans h))
    omega
  · omega
  · exact Int.neg_le_neg (mono (neg_le_neg_iff.mp h))

section
variable {n : Numeral} {x : Finite64} (digits : ∀ c ∈ n.digits, c.isDigit)
include digits

theorem toFinite64?_eq_some_iff : n.toFinite64? = some x ↔ n.Rounds x := by
  constructor
  · intro h
    obtain ⟨lt, hx⟩ := Option.dite_none_right_eq_some.mp h
    obtain rfl := Option.some.inj hx
    exact ⟨rfl, ((rank_eq_iff digits lt).mp rfl).symm⟩
  · rintro ⟨sign, rank⟩
    exact toFinite64?_eq sign.symm ((rank_eq_iff digits x.rank_lt).mpr rank.symm)

end

end Numeral

/-! ## spellings -/

def Spelling.value (w : Spelling) : ℚ := w.exact.value

theorem Spelling.toFinite64?_numeral {w : Spelling} (h : w.Followed) :
    w.numeral.toFinite64? = w.exact.toFinite64? := by
  unfold Numeral.toFinite64?
  simp only [rank_numeral h]
  rfl

theorem readNumber?_eq_some_iff {s : String} {x : Finite64} :
    readNumber? s = some x ↔
      ∃ w : Spelling, w.text = Text.trim s.toList ∧ w.numeral.toFinite64? = some x := by
  rw [readNumber?, Option.bind_eq_some_iff]
  simp only [Numeral.read?_eq_some_iff]
  constructor
  · rintro ⟨_, ⟨w, text, rfl⟩, rounded⟩
    exact ⟨w, text, rounded⟩
  · rintro ⟨w, text, rounded⟩
    exact ⟨_, ⟨w, text, rfl⟩, rounded⟩

theorem exists_spelling_of_readNumber? {s : String} {x : Finite64} (h : readNumber? s = some x) :
    ∃ w : Spelling, w.text = Text.trim s.toList := by
  obtain ⟨w, text, -⟩ := readNumber?_eq_some_iff.mp h
  exact ⟨w, text⟩

/-- a number that is read is the exact numeral rounded to the nearest -/
theorem Spelling.rounds {w : Spelling} (followed : w.Followed) {s : String}
    (text : w.text = Text.trim s.toList) {x : Finite64} (h : readNumber? s = some x) :
    w.exact.Rounds x := by
  rw [readNumber?, ← text, w.read?_text, Option.bind_some, toFinite64?_numeral followed] at h
  exact (Numeral.toFinite64?_eq_some_iff w.all_digits).mp h

end TableChart
