import TableChart.Proofs.Decimal.Layout
import TableChart.Proofs.Text.Trim

/-!
# Canonical texts are read back

* `lead_shortestDecimal`    where the first digit of a finite magnitude can stand;
* `withoutZeroSign`         a number whose zero has lost its sign: all that its canonical text tells;
* `readNumber?_canonical`   the canonical text is read as just that.

The texts have no blanks and no quotes: their characters lie between `+` and `e`.
-/

namespace TableChart

/-! ## the exponents that occur -/

theorem coefficient_shortestDecimal {r : Nat} (h : 0 < r) : 0 < (shortestDecimal r).coefficient := by
  have rank := rank_shortestDecimal h
  by_contra zero
  have := Decimal.rank_eq_zero_of_coefficient (Nat.eq_zero_of_not_pos zero)
  omega

theorem lead_shortestDecimal {r : Nat} (h : 0 < r) (hr : r < rankCount) :
    -324 < (shortestDecimal r).lead ∧ (shortestDecimal r).lead < 310 := by
  have rank := rank_shortestDecimal h
  have pos := coefficient_shortestDecimal h
  have lead := (shortestDecimal r).lead_eq
  have digits := digitCount_pos (shortestDecimal r).coefficient
  constructor
  · by_contra small
    have zero := Decimal.rank_eq_zero (lt_pow_digitCount _) (by rw [← lead]; omega)
    omega
  · by_contra large
    have beyond := Decimal.rankCount_le_rank (pow_digitCount_le pos) (by omega)
    omega

/-! ## the characters that occur -/

def InNumber (c : Char) : Prop := '+'.toNat ≤ c.toNat ∧ c.toNat ≤ 'e'.toNat

theorem inNumber_of_isDigit {c : Char} (h : c.isDigit) : InNumber c := by
  have range := Char.isDigit_iff_toNat.mp h
  have ends : '+'.toNat ≤ '0'.toNat ∧ '9'.toNat ≤ 'e'.toNat := by decide
  exact ⟨by omega, by omega⟩

theorem not_isBlank_of_inNumber {c : Char} (h : InNumber c) : ¬ Text.isBlank c := by
  have ends : 0x20 < '+'.toNat ∧ 'e'.toNat < 0x7F := by decide
  exact Text.not_isBlank_of_range (Nat.lt_of_lt_of_le ends.1 h.1)
    (Nat.lt_of_le_of_lt h.2 ends.2)

namespace Decimal

theorem inNumber_positional (d : Decimal) : ∀ c ∈ d.positional, InNumber c := by
  have digits : ∀ c ∈ digitChars d.coefficient, InNumber c := fun c hc =>
    inNumber_of_isDigit (isDigit_digitChars c hc)
  have zeros (k : Nat) : ∀ c ∈ List.replicate k '0', InNumber c := by
    intro c hc
    rw [List.eq_of_mem_replicate hc]
    exact inNumber_of_isDigit rfl
  have point : InNumber '.' := by
    unfold InNumber
    decide
  unfold positional
  dsimp only
  split
  · exact List.forall_mem_append.mpr ⟨digits, zeros _⟩
  · split
    · refine List.forall_mem_append.mpr ⟨fun c hc => digits c (List.mem_of_mem_take hc), ?_⟩
      exact List.forall_mem_cons.mpr ⟨point, fun c hc => digits c (List.mem_of_mem_drop hc)⟩
    · refine List.forall_mem_cons.mpr ⟨inNumber_of_isDigit rfl, ?_⟩
      exact List.forall_mem_cons.mpr ⟨point, List.forall_mem_append.mpr ⟨zeros _, digits⟩⟩

theorem mem_pointed {cs : List Char} {c : Char} (h : c ∈ pointed cs) : c ∈ cs ∨ c = '.' := by
  match cs with
  | [] => exact absurd h List.not_mem_nil
  | [x] => exact Or.inl h
  | x :: y :: rest =>
    simp only [pointed, List.mem_cons] at h ⊢
    tauto

theorem inNumber_scientific (d : Decimal) : ∀ c ∈ d.scientific, InNumber c := by
  have digits (n : Nat) : ∀ c ∈ digitChars n, InNumber c := fun c hc =>
    inNumber_of_isDigit (isDigit_digitChars c hc)
  have marks : InNumber '.' ∧ InNumber 'e' ∧ InNumber '-' ∧ InNumber '+' := by
    unfold InNumber
    decide
  unfold scientific
  refine List.forall_mem_append.mpr ⟨fun c hc => ?_, ?_⟩
  · rcases mem_pointed hc with hd | rfl
    · exact digits _ c hd
    · exact marks.1
  · refine List.forall_mem_cons.mpr ⟨marks.2.1, List.forall_mem_cons.mpr ⟨?_, digits _⟩⟩
    split
    · exact marks.2.2.1
    · exact marks.2.2.2

end Decimal

theorem inNumber_canonicalMagnitude (r : Nat) : ∀ c ∈ canonicalMagnitude r, InNumber c := by
  unfold canonicalMagnitude
  split
  · exact Decimal.inNumber_positional _
  · exact Decimal.inNumber_scientific _

namespace Finite64

theorem inNumber_canonical (x : Finite64) : ∀ c ∈ x.canonical, InNumber c := by
  unfold canonical signed
  split
  · exact List.forall_mem_singleton.mpr (inNumber_of_isDigit rfl)
  · split
    · refine List.forall_mem_cons.mpr ⟨?_, inNumber_canonicalMagnitude _⟩
      unfold InNumber
      decide
    · exact inNumber_canonicalMagnitude _

/-! ## reading -/

def withoutZeroSign (x : Finite64) : Finite64 := if x.rank = 0 then .zero else x

theorem position_withoutZeroSign (x : Finite64) : x.withoutZeroSign.position = x.position := by
  unfold withoutZeroSign
  split
  · rename_i zero
    unfold position
    rw [zero]
    cases x.negative <;> rfl
  · rfl

theorem canonical_withoutZeroSign (x : Finite64) : x.withoutZeroSign.canonical = x.canonical := by
  unfold withoutZeroSign
  split
  · rename_i zero
    unfold canonical
    rw [if_pos zero]
    rfl
  · rfl

end Finite64

/-- **A canonical text is read back**, but for the sign of a zero. -/
theorem readNumber?_canonical (x : Finite64) :
    readNumber? (String.ofList x.canonical) = some x.withoutZeroSign := by
  have ends : Text.trim x.canonical = x.canonical :=
    Text.trim_eq_self_of_forall fun c hc => not_isBlank_of_inNumber (x.inNumber_canonical c hc)
  unfold readNumber?
  rw [String.toList_ofList, ends]
  unfold Finite64.canonical Finite64.withoutZeroSign
  by_cases zero : x.rank = 0
  · rw [if_pos zero, if_pos zero]
    rfl
  · have pos : 0 < x.rank := Nat.pos_of_ne_zero zero
    have lead := lead_shortestDecimal pos x.rank_lt
    have short : ((shortestDecimal x.rank).lead - 1).natAbs < 10 * exponentStop := by
      have stop : 10 * exponentStop = 655360 := by decide
      omega
    obtain ⟨n, hn, hneg, digits, hrank⟩ := spells_canonicalMagnitude short x.negative
    have rank : n.rank = x.rank :=
      (Numeral.rank_eq_iff digits x.rank_lt).mpr (hrank.trans (rank_shortestDecimal pos))
    rw [if_neg zero, if_neg zero, hn]
    exact Numeral.toFinite64?_eq hneg rank

theorem Finite64.canonical_ne (x : Finite64) : x.canonical ≠ [] := by
  intro h
  have read := readNumber?_canonical x
  rw [h] at read
  exact absurd read nofun

end TableChart
