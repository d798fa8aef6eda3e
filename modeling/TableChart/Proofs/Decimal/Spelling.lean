import TableChart.Proofs.Decimal.ReadBack

/-!
# Spellings of numerals

* `Spelling`                     a numeral as it is written: a sign, digits with a point, an exponent;
* `Numeral.read?_eq_some_iff`    what is read is what has a spelling, and it is read digit by digit but
                                 for a large exponent;
* `Spelling.exact`               the numeral with the exponent that its digits spell in full, which is
                                 settled by the text (`Spelling.exact_congr`);
* `Spelling.rank_numeral`        the two are rounded alike, unless the exponent is not followed to its
                                 end and very many digits make up for it.
-/

namespace TableChart

/-! ## signs -/

inductive Sign where
  | none
  | plus
  | minus
deriving DecidableEq

namespace Sign

def text : Sign → List Char
  | none => []
  | plus => ['+']
  | minus => ['-']

def negative : Sign → Bool
  | minus => true
  | _ => false

def apply (sign : Sign) (n : Nat) : Int := if sign.negative then -n else n

theorem unsigned_text (sign : Sign) {body : List Char} (h : ∀ c ∈ body.head?, c ≠ '-' ∧ c ≠ '+') :
    Numeral.unsigned (sign.text ++ body) = (sign.negative, body) := by
  cases sign with
  | plus | minus => rfl
  | none =>
    show Numeral.unsigned body = (false, body)
    unfold Numeral.unsigned
    split
    · exact absurd rfl (h _ rfl).1
    · exact absurd rfl (h _ rfl).2
    · rfl

theorem exists_text (cs : List Char) :
    ∃ sign : Sign, sign.text ++ (Numeral.unsigned cs).2 = cs := by
  unfold Numeral.unsigned
  split
  · exact ⟨minus, rfl⟩
  · exact ⟨plus, rfl⟩
  · exact ⟨none, rfl⟩

end Sign

/-! ## exponents -/

structure SpelledExponent where
  mark : Char
  sign : Sign
  digits : List Char
  mark_e : mark = 'e' ∨ mark = 'E'
  some_digits : digits ≠ []
  all_digits : ∀ c ∈ digits, c.isDigit

namespace SpelledExponent
variable (e : SpelledExponent)

def text : List Char := e.mark :: (e.sign.text ++ e.digits)

def number : Nat := Nat.ofDigitChars 10 e.digits 0

end SpelledExponent

namespace Numeral

theorem exponent?_cons (c : Char) (cs : List Char) :
    exponent? (c :: cs) =
      if c = 'e' ∨ c = 'E' then
        if (unsigned cs).2 ≠ [] ∧ (unsigned cs).2.all Char.isDigit then
          some (if (unsigned cs).1 then -(exponentOf (unsigned cs).2 : Int)
            else exponentOf (unsigned cs).2)
        else none
      else none := rfl

/-- a digit is no sign -/
theorem not_sign_of_isDigit {c : Char} (h : c.isDigit) : c ≠ '-' ∧ c ≠ '+' := by
  constructor <;> rintro rfl <;> exact absurd h (by decide)

theorem unsigned_exponent (e : SpelledExponent) :
    unsigned (e.sign.text ++ e.digits) = (e.sign.negative, e.digits) :=
  e.sign.unsigned_text fun c hc => not_sign_of_isDigit (e.all_digits c (List.mem_of_head? hc))

theorem exponent?_text (e : SpelledExponent) :
    exponent? e.text = some (e.sign.apply (exponentOf e.digits)) := by
  rw [SpelledExponent.text, exponent?_cons, if_pos e.mark_e, unsigned_exponent,
    if_pos ⟨e.some_digits, List.all_eq_true.mpr e.all_digits⟩]
  rfl

theorem endsAs_text (e : SpelledExponent) : EndsAs e.text (e.sign.apply (exponentOf e.digits)) where
  exponent := exponent?_text e
  stop := by
    rintro _ ⟨⟩
    rcases e.mark_e with h | h <;> rw [h] <;> decide
  no_point h := by
    have point : e.mark = '.' := Option.some.inj h
    rcases e.mark_e with h | h <;> rw [h] at point <;> cases point

theorem exists_exponent {rest : List Char} {e : Int} (h : exponent? rest = some e) :
    ∃ spelled : Option SpelledExponent, spelled.elim [] SpelledExponent.text = rest := by
  cases rest with
  | nil => exact ⟨none, rfl⟩
  | cons c cs =>
    rw [exponent?_cons, Option.ite_none_right_eq_some, Option.ite_none_right_eq_some] at h
    obtain ⟨mark, ⟨some_digits, all_digits⟩, -⟩ := h
    obtain ⟨sign, joined⟩ := Sign.exists_text cs
    exact ⟨some ⟨c, sign, (unsigned cs).2, mark, some_digits, List.all_eq_true.mp all_digits⟩,
      congrArg (c :: ·) joined⟩

end Numeral

/-! ## spellings -/

structure Spelling where
  sign : Sign
  whole : List Char
  part : Option (List Char)
  exponent : Option SpelledExponent
  whole_digits : ∀ c ∈ whole, c.isDigit
  part_digits : ∀ c ∈ part.getD [], c.isDigit
  some_digits : whole ++ part.getD [] ≠ []

namespace Spelling
variable (w : Spelling)

def digits : List Char := w.whole ++ w.part.getD []

/-- the point and the digits behind it -/
def pointed : List Char := w.part.elim [] ('.' :: ·)

def tail : List Char := w.exponent.elim [] SpelledExponent.text

def text : List Char := w.sign.text ++ (w.whole ++ (w.pointed ++ w.tail))

/-- the numeral, if its exponent is this one -/
def withExponent (e : Int) : Numeral := ⟨w.sign.negative, w.digits, e - (w.part.getD []).length⟩

/-- the numeral as it is read -/
def numeral : Numeral :=
  w.withExponent (w.exponent.elim 0 fun e => e.sign.apply (exponentOf e.digits))

/-- the numeral as it is written -/
def exact : Numeral := w.withExponent (w.exponent.elim 0 fun e => e.sign.apply e.number)

theorem all_digits : ∀ c ∈ w.digits, c.isDigit :=
  List.forall_mem_append.mpr ⟨w.whole_digits, w.part_digits⟩

/-! ### reading -/

theorem endsAs_tail :
    Numeral.EndsAs w.tail (w.exponent.elim 0 fun e => e.sign.apply (exponentOf e.digits)) := by
  unfold tail
  cases w.exponent with
  | none => exact Numeral.endsAs_nil
  | some e => exact Numeral.endsAs_text e

theorem pointed_stop : ∀ c ∈ (w.pointed ++ w.tail).head?, ¬ c.isDigit := by
  unfold pointed
  cases w.part with
  | none => exact w.endsAs_tail.stop
  | some ds =>
    rintro _ ⟨⟩
    decide

theorem fraction_pointed : Numeral.fraction (w.pointed ++ w.tail) = (w.part.getD [], w.tail) := by
  have digits := w.part_digits
  have ends := w.endsAs_tail
  unfold pointed
  cases hp : w.part with
  | none => exact Numeral.fraction_of_no_point ends.no_point
  | some ds =>
    rw [hp] at digits
    exact congrArg₂ Prod.mk (Numeral.leadingDigits_append digits ends.stop)
      (Numeral.afterDigits_append digits ends.stop)

/-- behind the sign stands a digit or a point -/
theorem body_first : ∀ c ∈ (w.whole ++ (w.pointed ++ w.tail)).head?, c ≠ '-' ∧ c ≠ '+' := by
  have digits := w.whole_digits
  have some_digits := w.some_digits
  unfold pointed
  cases hw : w.whole with
  | cons d ds =>
    rintro _ ⟨⟩
    exact Numeral.not_sign_of_isDigit (digits d (hw ▸ List.mem_cons_self))
  | nil =>
    cases hp : w.part with
    | none =>
      rw [hw, hp] at some_digits
      exact absurd rfl some_digits
    | some ds =>
      rintro _ ⟨⟩
      decide

theorem read?_text : Numeral.read? w.text = some w.numeral := by
  have some_digits : ¬ (w.whole = [] ∧ w.part.getD [] = []) := fun none =>
    w.some_digits (List.append_eq_nil_iff.mpr none)
  rw [Numeral.read?_eq, text, w.sign.unsigned_text w.body_first]
  simp only [Numeral.leadingDigits_append w.whole_digits w.pointed_stop,
    Numeral.afterDigits_append w.whole_digits w.pointed_stop, w.fraction_pointed]
  rw [if_neg some_digits, w.endsAs_tail.exponent]
  rfl

end Spelling

theorem Numeral.exists_fraction (cs : List Char) :
    ∃ part : Option (List Char), part.getD [] = (fraction cs).1 ∧
      part.elim [] ('.' :: ·) ++ (fraction cs).2 = cs ∧ ∀ c ∈ (fraction cs).1, c.isDigit := by
  unfold fraction
  split
  · rename_i rest
    exact ⟨some (leadingDigits rest), rfl, congrArg ('.' :: ·) List.takeWhile_append_dropWhile,
      fun _ => List.mem_takeWhile_imp⟩
  · exact ⟨none, rfl, rfl, nofun⟩

theorem Numeral.exists_spelling {cs : List Char} {n : Numeral} (h : read? cs = some n) :
    ∃ w : Spelling, w.text = cs := by
  rw [read?_eq] at h
  dsimp only at h
  rw [Option.ite_none_left_eq_some] at h
  obtain ⟨some_digits, read⟩ := h
  obtain ⟨e, hexponent, -⟩ := Option.map_eq_some_iff.mp read
  obtain ⟨sign, hsign⟩ := Sign.exists_text cs
  obtain ⟨part, hpart, hpointed, digits⟩ := exists_fraction (afterDigits (unsigned cs).2)
  obtain ⟨exponent, htail⟩ := exists_exponent hexponent
  refine ⟨⟨sign, leadingDigits (unsigned cs).2, part, exponent, fun _ => List.mem_takeWhile_imp,
    hpart ▸ digits, ?_⟩, ?_⟩
  · rw [hpart]
    exact fun none => some_digits (List.append_eq_nil_iff.mp none)
  · show sign.text ++ (leadingDigits _ ++ (part.elim [] ('.' :: ·) ++
      exponent.elim [] SpelledExponent.text)) = cs
    rw [htail, hpointed, leadingDigits, afterDigits, List.takeWhile_append_dropWhile, hsign]

/-- **What is read is what has a spelling.** -/
theorem Numeral.read?_eq_some_iff {cs : List Char} {n : Numeral} :
    read? cs = some n ↔ ∃ w : Spelling, w.text = cs ∧ w.numeral = n := by
  constructor
  · intro h
    obtain ⟨w, rfl⟩ := exists_spelling h
    exact ⟨w, rfl, Option.some.inj (w.read?_text.symm.trans h)⟩
  · rintro ⟨w, rfl, rfl⟩
    exact w.read?_text

namespace Spelling

/-! ### one text, one spelling -/

theorem tail_inj {w v : Spelling} (h : w.tail = v.tail) :
    (w.exponent.elim 0 fun e => e.sign.apply e.number)
      = v.exponent.elim 0 fun e => e.sign.apply e.number := by
  unfold tail at h
  cases hw : w.exponent with
  | none =>
    cases hv : v.exponent with
    | none => rfl
    | some f =>
      rw [hw, hv] at h
      cases h
  | some e =>
    cases hv : v.exponent with
    | none =>
      rw [hw, hv] at h
      cases h
    | some f =>
      rw [hw, hv] at h
      have same := congrArg Numeral.unsigned (List.cons.inj h).2
      rw [Numeral.unsigned_exponent, Numeral.unsigned_exponent] at same
      obtain ⟨sign, digits⟩ := Prod.mk.inj same
      show e.sign.apply e.number = f.sign.apply f.number
      unfold Sign.apply SpelledExponent.number
      rw [sign, digits]

/-- a text has one meaning -/
theorem exact_congr {w v : Spelling} (h : w.text = v.text) : w.exact = v.exact := by
  have body := congrArg Numeral.unsigned h
  rw [text, text, w.sign.unsigned_text w.body_first, v.sign.unsigned_text v.body_first] at body
  obtain ⟨sign, body⟩ := Prod.mk.inj body
  have whole := congrArg Numeral.leadingDigits body
  rw [Numeral.leadingDigits_append w.whole_digits w.pointed_stop,
    Numeral.leadingDigits_append v.whole_digits v.pointed_stop] at whole
  have rest := congrArg Numeral.afterDigits body
  rw [Numeral.afterDigits_append w.whole_digits w.pointed_stop,
    Numeral.afterDigits_append v.whole_digits v.pointed_stop] at rest
  have parts := congrArg Numeral.fraction rest
  rw [w.fraction_pointed, v.fraction_pointed] at parts
  obtain ⟨part, tail⟩ := Prod.mk.inj parts
  unfold exact withExponent digits
  rw [sign, whole, part, tail_inj tail]

/-! ### the characters that occur -/

def marks : List Char := ['+', '-', '.', 'e', 'E']

theorem mem_marks_of_sign {sign : Sign} {c : Char} (h : c ∈ sign.text) : c ∈ marks := by
  cases sign with
  | none => cases h
  | plus | minus =>
    rw [List.mem_singleton.mp h]
    decide

theorem text_ne (w : Spelling) : w.text ≠ [] := by
  intro none
  have read := w.read?_text
  rw [none] at read
  cases read

theorem mem_text {w : Spelling} {c : Char} (h : c ∈ w.text) : c.isDigit ∨ c ∈ marks := by
  rw [text, List.mem_append, List.mem_append, List.mem_append] at h
  rcases h with sign | whole | pointed | tail
  · exact Or.inr (mem_marks_of_sign sign)
  · exact Or.inl (w.whole_digits c whole)
  · have digits := w.part_digits
    unfold Spelling.pointed at pointed
    cases hp : w.part with
    | none =>
      rw [hp] at pointed
      cases pointed
    | some ds =>
      rw [hp] at pointed digits
      rcases List.mem_cons.mp pointed with rfl | digit
      · exact Or.inr (by decide)
      · exact Or.inl (digits c digit)
  · unfold Spelling.tail at tail
    cases he : w.exponent with
    | none =>
      rw [he] at tail
      cases tail
    | some e =>
      rw [he] at tail
      rcases List.mem_cons.mp tail with mark | rest
      · rw [mark]
        rcases e.mark_e with h | h <;> rw [h] <;> exact Or.inr (by decide)
      · rcases List.mem_append.mp rest with sign | digit
        · exact Or.inr (mem_marks_of_sign sign)
        · exact Or.inl (e.all_digits c digit)

theorem inNumber_text {w : Spelling} {c : Char} (h : c ∈ w.text) : InNumber c ∧ c ≠ '=' := by
  have marks : marks.all fun c => '+'.toNat ≤ c.toNat && c.toNat ≤ 'e'.toNat && c != '=' := by decide
  rcases mem_text h with digit | mark
  · refine ⟨inNumber_of_isDigit digit, ?_⟩
    rintro rfl
    exact absurd digit (by decide)
  · have := List.all_eq_true.mp marks c mark
    simpa [InNumber] using this

theorem trim_text (w : Spelling) : Text.trim w.text = w.text :=
  Text.trim_eq_self_of_forall fun _ hc => not_isBlank_of_inNumber (inNumber_text hc).1

end Spelling

/-! ## large exponents -/

theorem foldl_exponentStep_of_stop {n : Nat} (h : exponentStop ≤ n) (ds : List Char) :
    ds.foldl exponentStep n = n := by
  induction ds with
  | nil => rfl
  | cons c cs ih => rw [List.foldl_cons, exponentStep, if_neg (Nat.not_lt.mpr h), ih]

theorem foldl_exponentStep_of_lt {ds : List Char} {n : Nat}
    (h : ds.foldl exponentStep n < exponentStop) :
    ds.foldl exponentStep n = Nat.ofDigitChars 10 ds n := by
  induction ds generalizing n with
  | nil => rfl
  | cons c cs ih =>
    rw [List.foldl_cons] at h ⊢
    have small : n < exponentStop := by
      by_contra large
      have stopped : exponentStep n c = n := if_neg large
      rw [stopped, foldl_exponentStep_of_stop (Nat.le_of_not_lt large)] at h
      exact large h
    have step : exponentStep n c = 10 * n + (c.toNat - '0'.toNat) := if_pos small
    rw [ih h, step, Nat.ofDigitChars_cons]

/-- an exponent is not followed to its end only when it is large -/
theorem exponentStop_le_exponentOf {ds : List Char} (h : exponentStop ≤ Nat.ofDigitChars 10 ds 0) :
    exponentStop ≤ exponentOf ds := by
  by_contra small
  have value : exponentOf ds = Nat.ofDigitChars 10 ds 0 :=
    foldl_exponentStep_of_lt (Nat.lt_of_not_le small)
  omega

namespace Numeral

theorem rank_of_small {n : Numeral} (h : n.digits.length + n.exponent ≤ -324) : n.rank = 0 := by
  have fewer : (n.digits.dropWhile (· == '0')).length ≤ n.digits.length :=
    (List.dropWhile_sublist _).length_le
  exact if_pos (Or.inr (by omega))

theorem rank_of_large {n : Numeral} (h : 309 ≤ n.exponent) :
    n.rank = if n.digits.dropWhile (· == '0') = [] then 0 else rankCount := by
  by_cases zeros : n.digits.dropWhile (· == '0') = []
  · rw [if_pos zeros]
    exact if_pos (Or.inl zeros)
  · have some_digit := List.length_pos_iff.mpr zeros
    rw [if_neg zeros]
    unfold rank
    dsimp only
    rw [if_neg (not_or.mpr ⟨zeros, by omega⟩), if_pos (by omega)]

end Numeral

namespace Spelling
variable {w : Spelling}

/-- the exponent is followed to its end, or so large that neither side of the point makes up for it -/
def Followed (w : Spelling) : Prop :=
  (∀ e ∈ w.exponent, e.number < 10 * exponentStop) ∨
    w.whole.length + 324 ≤ exponentStop ∧ (w.part.getD []).length + 309 ≤ exponentStop

theorem rank_withExponent_minus {k : Nat} (h : w.whole.length + 324 ≤ k) :
    (w.withExponent (-k)).rank = 0 := by
  refine Numeral.rank_of_small ?_
  have length : w.digits.length = w.whole.length + (w.part.getD []).length := List.length_append
  show (w.digits.length : Int) + (-k - (w.part.getD []).length) ≤ -324
  omega

theorem rank_withExponent_plus {k : Nat} (h : (w.part.getD []).length + 309 ≤ k) :
    (w.withExponent k).rank = if w.digits.dropWhile (· == '0') = [] then 0 else rankCount := by
  refine Numeral.rank_of_large ?_
  show (309 : Int) ≤ k - (w.part.getD []).length
  omega

theorem rank_numeral (h : w.Followed) : w.numeral.rank = w.exact.rank := by
  unfold numeral exact
  cases he : w.exponent with
  | none => rfl
  | some e =>
    show (w.withExponent (e.sign.apply (exponentOf e.digits))).rank
      = (w.withExponent (e.sign.apply e.number)).rank
    by_cases followed : e.number < 10 * exponentStop
    · rw [exponentOf_eq e.digits followed]
      rfl
    · -- both exponents are so large that the digits do not count
      obtain ⟨before, behind⟩ := h.resolve_left fun all => followed (all e he)
      have large : exponentStop ≤ e.number := by omega
      have read := exponentStop_le_exponentOf large
      unfold Sign.apply
      split
      · rw [rank_withExponent_minus (by omega), rank_withExponent_minus (by omega)]
      · rw [rank_withExponent_plus (by omega), rank_withExponent_plus (by omega)]

end Spelling

end TableChart
