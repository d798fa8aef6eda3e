import TableChart.Decimal.Layout
import TableChart.Proofs.Decimal.Numeral
import TableChart.Proofs.Decimal.Shortest
import TableChart.Proofs.Text.Run

/-!
# Numbers are read back from their layouts

* `Spells cs d`   with either sign a text is read as a numeral that is rounded as `d` is;
* `spells_positional`, `spells_scientific`   the layouts spell their decimals, and so does the one
                  that is chosen (`spells_canonicalMagnitude`).

An exponent is read by its value below `655360` only, and the exponents of magnitudes have at most
three digits.
-/

namespace TableChart

/-! ## the digits of a number -/

theorem isDigit_digitChars {n : Nat} : ∀ c ∈ digitChars n, c.isDigit := isDigit_toDigits n

theorem digitChars_ne_nil (n : Nat) : digitChars n ≠ [] := Nat.toDigits_ne_nil

theorem ofDigitChars_digitChars (n : Nat) : Nat.ofDigitChars 10 (digitChars n) 0 = n :=
  Nat.ofDigitChars_ten_toDigits

theorem length_digitChars (n : Nat) : (digitChars n).length = digitCount n := rfl

namespace Numeral

/-! ## the parts of a numeral -/

theorem unsigned_signed {c : Char} (h : c.isDigit) (neg : Bool) (cs : List Char) :
    unsigned (signed neg (c :: cs)) = (neg, c :: cs) := by
  cases neg with
  | true => rfl
  | false =>
    unfold signed unsigned
    split
    · rename_i e
      obtain ⟨rfl, -⟩ := List.cons.inj e
      exact absurd h (by decide)
    · rename_i e
      obtain ⟨rfl, -⟩ := List.cons.inj e
      exact absurd h (by decide)
    · rfl

section
variable {ds rest : List Char} (digits : ∀ c ∈ ds, c.isDigit) (stop : ∀ c ∈ rest.head?, ¬ c.isDigit)
include digits stop

theorem leadingDigits_append : leadingDigits (ds ++ rest) = ds := Text.takeWhile_run digits stop

theorem afterDigits_append : afterDigits (ds ++ rest) = rest := Text.dropWhile_run digits stop

end

/-- what may follow the digits: an exponent or nothing -/
structure EndsAs (rest : List Char) (e : Int) : Prop where
  exponent : exponent? rest = some e
  stop : ∀ c ∈ rest.head?, ¬ c.isDigit
  no_point : rest.head? ≠ some '.'

theorem endsAs_nil : EndsAs [] 0 := ⟨rfl, nofun, nofun⟩

theorem exponentOf_digitChars {m : Nat} (h : m < 10 * exponentStop) :
    exponentOf (digitChars m) = m := by
  have value := ofDigitChars_digitChars m
  rw [exponentOf_eq _ (by rw [value]; exact h), value]

theorem exponent?_e (cs : List Char) :
    exponent? ('e' :: cs) =
      if (unsigned cs).2 ≠ [] ∧ (unsigned cs).2.all Char.isDigit then
        some (if (unsigned cs).1 then -(exponentOf (unsigned cs).2 : Int)
          else exponentOf (unsigned cs).2)
      else none := rfl

theorem exponent?_digitChars {e : Int} (h : e.natAbs < 10 * exponentStop) :
    exponent? ('e' :: (if e < 0 then '-' else '+') :: digitChars e.natAbs) = some e := by
  have digits : (digitChars e.natAbs).all Char.isDigit := List.all_eq_true.mpr isDigit_digitChars
  have some_digits := digitChars_ne_nil e.natAbs
  have value := exponentOf_digitChars h
  have sign : unsigned ((if e < 0 then '-' else '+') :: digitChars e.natAbs)
      = (decide (e < 0), digitChars e.natAbs) := by
    by_cases neg : e < 0 <;> simp [neg, unsigned]
  rw [exponent?_e, sign, if_pos ⟨some_digits, digits⟩, value]
  refine congrArg some ?_
  dsimp only
  by_cases neg : e < 0
  · rw [if_pos (decide_eq_true neg)]
    omega
  · rw [if_neg (by rw [decide_eq_true_eq]; exact neg)]
    omega

theorem endsAs_exponent {e : Int} (h : e.natAbs < 10 * exponentStop) :
    EndsAs ('e' :: (if e < 0 then '-' else '+') :: digitChars e.natAbs) e where
  exponent := exponent?_digitChars h
  stop := by
    rintro _ ⟨⟩
    decide
  no_point := by
    rintro ⟨⟩

theorem fraction_of_no_point {rest : List Char} (h : rest.head? ≠ some '.') :
    fraction rest = ([], rest) := by
  unfold fraction
  split
  · exact absurd rfl h
  · rfl

theorem read?_eq (cs : List Char) :
    read? cs = let body := (unsigned cs).2
      let whole := leadingDigits body
      let part := fraction (afterDigits body)
      if whole = [] ∧ part.1 = [] then none
      else (exponent? part.2).map fun e =>
        ⟨(unsigned cs).1, whole ++ part.1, e - part.1.length⟩ := rfl

section
variable {whole part rest : List Char} {e : Int} (hw : whole ≠ [])
  (whole_digits : ∀ c ∈ whole, c.isDigit) (ends : EndsAs rest e)
include hw whole_digits

theorem unsigned_signed_append (neg : Bool) (tail : List Char) :
    unsigned (signed neg (whole ++ tail)) = (neg, whole ++ tail) := by
  obtain ⟨c, cs, rfl⟩ := List.exists_cons_of_ne_nil hw
  exact unsigned_signed (whole_digits c List.mem_cons_self) neg (cs ++ tail)

include ends

theorem read?_whole (neg : Bool) : read? (signed neg (whole ++ rest)) = some ⟨neg, whole, e⟩ := by
  rw [read?_eq, unsigned_signed_append hw whole_digits]
  simp only [leadingDigits_append whole_digits ends.stop, afterDigits_append whole_digits ends.stop,
    fraction_of_no_point ends.no_point, ends.exponent]
  rw [if_neg fun h => hw h.1]
  simp

theorem read?_pointed (part_digits : ∀ c ∈ part, c.isDigit) (neg : Bool) :
    read? (signed neg (whole ++ '.' :: (part ++ rest)))
      = some ⟨neg, whole ++ part, e - part.length⟩ := by
  have stop : ∀ c ∈ ('.' :: (part ++ rest)).head?, ¬ c.isDigit := by
    rintro _ ⟨⟩
    decide
  rw [read?_eq, unsigned_signed_append hw whole_digits]
  simp only [leadingDigits_append whole_digits stop, afterDigits_append whole_digits stop, fraction,
    leadingDigits_append part_digits ends.stop, afterDigits_append part_digits ends.stop,
    ends.exponent]
  rw [if_neg fun h => hw h.1]
  rfl

end

end Numeral

/-! ## layouts -/

/-- with either sign the text is read as a numeral that is rounded as the decimal is -/
def Spells (cs : List Char) (d : Decimal) : Prop :=
  ∀ neg, ∃ n, Numeral.read? (signed neg cs) = some n ∧ n.negative = neg ∧
    (∀ c ∈ n.digits, c.isDigit) ∧ n.magnitude.rank = d.rank

theorem Decimal.lead_eq (d : Decimal) : d.lead = digitCount d.coefficient + d.exponent := rfl

/-- the numeral with the digits of a decimal, however many zeros stand in front -/
theorem magnitude_eq {d : Decimal} {zeros : List Char} (h : ∀ c ∈ zeros, c = '0') (neg : Bool) :
    Numeral.magnitude ⟨neg, zeros ++ digitChars d.coefficient, d.exponent⟩ = d := by
  unfold Numeral.magnitude
  rw [Nat.ofDigitChars_append, ofDigitChars_zeros h, ofDigitChars_digitChars]

/-- a text with these digits and this exponent spells the decimal -/
theorem spells_of_read? {d : Decimal} {cs : List Char} (zeros : List Char) (h : ∀ c ∈ zeros, c = '0')
    (hr : ∀ neg, Numeral.read? (signed neg cs)
      = some ⟨neg, zeros ++ digitChars d.coefficient, d.exponent⟩) : Spells cs d := by
  intro neg
  refine ⟨_, hr neg, rfl, fun c hc => ?_, by rw [magnitude_eq h]⟩
  rcases List.mem_append.mp hc with hz | hd
  · rw [h c hz]
    rfl
  · exact isDigit_digitChars c hd

section
variable {d : Decimal}

theorem spells_zeros_behind (whole : 0 ≤ d.exponent) :
    Spells (digitChars d.coefficient ++ List.replicate d.exponent.toNat '0') d := by
  intro neg
  have zeros : ∀ c ∈ List.replicate d.exponent.toNat '0', c = '0' := fun c hc =>
    List.eq_of_mem_replicate hc
  have all_digits : ∀ c ∈ digitChars d.coefficient ++ List.replicate d.exponent.toNat '0',
      c.isDigit := by
    intro c hc
    rcases List.mem_append.mp hc with hd | hz
    · exact isDigit_digitChars c hd
    · rw [zeros c hz]
      rfl
  have read := Numeral.read?_whole (List.append_ne_nil_of_left_ne_nil (digitChars_ne_nil _) _)
    all_digits Numeral.endsAs_nil neg
  rw [List.append_nil] at read
  refine ⟨_, read, rfl, all_digits, ?_⟩
  unfold Numeral.magnitude
  rw [ofDigitChars_append_zeros zeros, ofDigitChars_digitChars, List.length_replicate,
    Decimal.rank_shift, Int.zero_add, Int.toNat_of_nonneg whole]

theorem spells_point_between (lead : 0 < d.lead) (part : d.exponent ≤ 0) :
    Spells ((digitChars d.coefficient).take d.lead.toNat
      ++ '.' :: (digitChars d.coefficient).drop d.lead.toNat) d := by
  refine spells_of_read? [] nofun fun neg => ?_
  have kept_digits : ∀ c ∈ (digitChars d.coefficient).take d.lead.toNat, c.isDigit := fun c hc =>
    isDigit_digitChars c (List.mem_of_mem_take hc)
  have part_digits : ∀ c ∈ (digitChars d.coefficient).drop d.lead.toNat, c.isDigit := fun c hc =>
    isDigit_digitChars c (List.mem_of_mem_drop hc)
  have kept_ne : (digitChars d.coefficient).take d.lead.toNat ≠ [] := by
    rw [Ne, List.take_eq_nil_iff, not_or]
    exact ⟨by omega, digitChars_ne_nil _⟩
  have read := Numeral.read?_pointed kept_ne kept_digits Numeral.endsAs_nil part_digits neg
  have places : 0 - ((digitChars d.coefficient).drop d.lead.toNat).length = d.exponent := by
    rw [List.length_drop, length_digitChars]
    have := d.lead_eq
    omega
  rw [List.append_nil, List.take_append_drop, places] at read
  exact read

theorem spells_zeros_in_front (lead : d.lead ≤ 0) :
    Spells ('0' :: '.' :: (List.replicate (-d.lead).toNat '0' ++ digitChars d.coefficient)) d := by
  have zeros : ∀ c ∈ '0' :: List.replicate (-d.lead).toNat '0', c = '0' := by
    rintro c (_ | ⟨_, hc⟩)
    · rfl
    · exact List.eq_of_mem_replicate hc
  refine spells_of_read? _ zeros fun neg => ?_
  have part_digits : ∀ c ∈ List.replicate (-d.lead).toNat '0' ++ digitChars d.coefficient,
      c.isDigit := by
    intro c hc
    rcases List.mem_append.mp hc with hz | hd
    · rw [List.eq_of_mem_replicate hz]
      rfl
    · exact isDigit_digitChars c hd
  have read := Numeral.read?_pointed (List.cons_ne_nil '0' []) (by simp) Numeral.endsAs_nil
    part_digits neg
  have places : 0 - ((List.replicate (-d.lead).toNat '0' ++ digitChars d.coefficient).length : Int)
      = d.exponent := by
    rw [List.length_append, List.length_replicate, length_digitChars]
    have := d.lead_eq
    omega
  rw [List.append_nil, places] at read
  exact read

end

theorem spells_positional (d : Decimal) : Spells d.positional d := by
  unfold Decimal.positional
  dsimp only
  split
  · rename_i whole
    exact spells_zeros_behind whole
  · rename_i not_whole
    split
    · rename_i lead
      exact spells_point_between lead (by omega)
    · rename_i lead
      exact spells_zeros_in_front (Int.not_lt.mp lead)

theorem spells_scientific {d : Decimal} (h : (d.lead - 1).natAbs < 10 * exponentStop) :
    Spells d.scientific d := by
  refine spells_of_read? [] nofun fun neg => ?_
  have ends := Numeral.endsAs_exponent h
  have lead := d.lead_eq
  have length := length_digitChars d.coefficient
  have digits := isDigit_digitChars (n := d.coefficient)
  have some_digits := digitChars_ne_nil d.coefficient
  unfold Decimal.scientific
  generalize digitChars d.coefficient = s at length digits some_digits
  obtain ⟨c, cs, rfl⟩ := List.exists_cons_of_ne_nil some_digits
  have first : ∀ x ∈ [c], x.isDigit := by
    rintro x (_ | ⟨_, ⟨⟩⟩)
    exact digits c List.mem_cons_self
  cases cs with
  | nil =>
    have read := Numeral.read?_whole (List.cons_ne_nil c []) first ends neg
    have places : d.lead - 1 = d.exponent := by
      rw [List.length_singleton] at length
      omega
    rw [← places]
    exact read
  | cons c' cs =>
    have read := Numeral.read?_pointed (List.cons_ne_nil c []) first ends
      (fun x hx => digits x (List.mem_cons_of_mem c hx)) neg
    have places : d.lead - 1 - ((c' :: cs).length : Int) = d.exponent := by
      rw [List.length_cons] at length
      omega
    rw [← places]
    exact read

theorem spells_canonicalMagnitude {r : Nat}
    (h : ((shortestDecimal r).lead - 1).natAbs < 10 * exponentStop) :
    Spells (canonicalMagnitude r) (shortestDecimal r) := by
  unfold canonicalMagnitude
  split
  · exact spells_positional _
  · exact spells_scientific h

end TableChart
