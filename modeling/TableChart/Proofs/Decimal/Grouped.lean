import TableChart.Decimal.Grouped
import TableChart.Proofs.Decimal.Count

/-!
# Digits in groups of three

* `ByThrees`           groups of three digits after a first one of one to three;
* `parted_groups`      on the way, the open group has as many digits as are left over by threes;
* `grouped_by_threes`  a grouped number is made of such groups, and is read back without its commas.
-/

namespace TableChart

/-! ## groups -/

structure ByThrees (groups : List (List Char)) : Prop where
  digits : ∀ g ∈ groups, ∀ c ∈ g, c.isDigit
  first : ∃ g, groups.head? = some g ∧ 1 ≤ g.length ∧ g.length ≤ 3
  others : ∀ g ∈ groups.tail, g.length = 3

/-- `lead` is the group that is still open on the left -/
theorem parted_groups (cs : List Char) :
    ∃ (lead : List Char) (groups : List (List Char)),
      lead.length = cs.length % 3 ∧ (∀ g ∈ groups, g.length = 3) ∧
      lead ++ groups.flatten = cs ∧ parted cs = lead ++ groups.flatMap (',' :: ·) := by
  induction cs with
  | nil => exact ⟨[], [], rfl, nofun, rfl, rfl⟩
  | cons c cs ih =>
    obtain ⟨lead, groups, length, threes, all, commas⟩ := ih
    by_cases full : (cs.length + 1) % 3 = 0
    · -- the digit closes the group
      refine ⟨[], (c :: lead) :: groups, full.symm, ?_, ?_, ?_⟩
      · intro g hg
        rcases List.mem_cons.mp hg with rfl | hg
        · rw [List.length_cons]
          omega
        · exact threes g hg
      · rw [← all]
        rfl
      · rw [parted, if_pos full, commas]
        rfl
    · refine ⟨c :: lead, groups, ?_, threes, ?_, ?_⟩
      · rw [List.length_cons, List.length_cons]
        omega
      · rw [← all]
        rfl
      · rw [parted, if_neg full, commas]
        rfl

theorem intercalate_comma (g : List Char) (groups : List (List Char)) :
    [','].intercalate (g :: groups) = g ++ groups.flatMap (',' :: ·) := by
  induction groups generalizing g with
  | nil => simp
  | cons g' groups ih =>
    rw [List.intercalate_cons_cons, ih, List.flatMap_cons]
    simp

theorem separated_groups {cs : List Char} (ne : cs ≠ []) (digits : ∀ c ∈ cs, c.isDigit) :
    ∃ groups, ByThrees groups ∧ separated cs = [','].intercalate groups ∧ groups.flatten = cs := by
  cases cs with
  | nil => exact absurd rfl ne
  | cons c cs =>
    obtain ⟨lead, groups, length, threes, all, commas⟩ := parted_groups cs
    have flat : ((c :: lead) :: groups).flatten = c :: cs := by
      rw [← all]
      rfl
    refine ⟨(c :: lead) :: groups, ⟨?_, ⟨c :: lead, rfl, ?_, ?_⟩, threes⟩, ?_, flat⟩
    · intro g hg d hd
      exact digits d (flat ▸ List.mem_flatten_of_mem hg hd)
    · exact Nat.succ_pos _
    · rw [List.length_cons]
      omega
    · rw [intercalate_comma]
      show c :: parted cs = c :: (lead ++ groups.flatMap (',' :: ·))
      rw [commas]

/-! ## the way back -/

def withoutCommas (text : String) : String := String.ofList (text.toList.filter (· ≠ ','))

theorem ne_comma {c : Char} (h : c.isDigit) : c ≠ ',' := by
  rintro rfl
  exact absurd h (by decide)

theorem filter_parted {cs : List Char} (h : ∀ c ∈ cs, c.isDigit) :
    (parted cs).filter (· ≠ ',') = cs := by
  induction cs with
  | nil => rfl
  | cons c cs ih =>
    have ne := ne_comma (h c List.mem_cons_self)
    have rest := ih fun d hd => h d (List.mem_cons_of_mem c hd)
    rw [parted]
    split
    · rw [List.filter_cons_of_neg (by simp), List.filter_cons_of_pos (by simpa using ne), rest]
    · rw [List.filter_cons_of_pos (by simpa using ne), rest]

theorem filter_separated {cs : List Char} (h : ∀ c ∈ cs, c.isDigit) :
    (separated cs).filter (· ≠ ',') = cs := by
  cases cs with
  | nil => rfl
  | cons c cs =>
    have rest := filter_parted fun d hd => h d (List.mem_cons_of_mem c hd)
    show (c :: parted cs).filter (· ≠ ',') = c :: cs
    rw [List.filter_cons_of_pos (by simpa using ne_comma (h c List.mem_cons_self)), rest]

theorem toList_grouped (n : Nat) : (grouped n).toList = separated (Nat.toDigits 10 n) := by
  rw [grouped, String.toList_ofList]

theorem withoutCommas_grouped (n : Nat) : withoutCommas (grouped n) = toString n := by
  rw [withoutCommas, toList_grouped, filter_separated (isDigit_toDigits n)]
  rfl

/-- **Thousands separators stand where they belong.**  A grouped number is made of digits in groups of
three, after a first group of one to three, with commas between them.  Without the commas it is the
decimal text of the number, which begins with a zero for zero alone; that text is read back as the
number, by the reader of counts if it is a count, so different numbers are grouped to different
texts. -/
theorem grouped_by_threes (n : Nat) :
    (∃ groups, ByThrees groups ∧ (grouped n).toList = [','].intercalate groups ∧
      groups.flatten = Nat.toDigits 10 n) ∧
    withoutCommas (grouped n) = toString n ∧
    ((withoutCommas (grouped n)).toList.head? = some '0' ↔ n = 0) ∧
    Nat.ofDigitChars 10 (withoutCommas (grouped n)).toList 0 = n ∧
    (readCount (withoutCommas (grouped n)) = .ok n ↔ n < countBound) ∧
    ∀ m, grouped m = grouped n ↔ m = n := by
  have back := withoutCommas_grouped n
  have text : (toString n).toList = Nat.toDigits 10 n := Nat.toList_repr
  rw [back, text]
  refine ⟨?_, rfl, ?_, Nat.ofDigitChars_ten_toDigits, ⟨readCount_lt, readCount_toDigits⟩, fun m => ?_⟩
  · rw [toList_grouped]
    exact separated_groups Nat.toDigits_ne_nil (isDigit_toDigits n)
  · constructor
    · intro zero
      by_contra pos
      exact head?_toDigits (Nat.pos_of_ne_zero pos) zero
    · rintro rfl
      rfl
  · constructor
    · intro same
      have texts := congrArg withoutCommas same
      rw [back, withoutCommas_grouped m] at texts
      exact toDigits_inj texts
    · rintro rfl
      rfl

example : grouped 1234567 = "1,234,567" := by cbv

end TableChart
