import TableChart.File.Name

/-!
# Names that end in `.csv`

* `EndsInCsv`         the last four characters of a name are `.csv`, ASCII letter case aside;
* `lowerAfter_ascii`  the lowercase of ASCII characters, whatever stands before them;
* `toNat_lt_of_mem_lowerChar`   no other character has one of the suffix in its lowercase;
* `suffix_lowerAfter_iff`       so the end of a name can be looked at before or after it is lowered;
* `ofName_eq_csv`     every name that ends in `.csv` is that of a table.
-/

namespace TableChart

def csvSuffix : List Char := ['.', 'c', 's', 'v']

def EndsInCsv (name : String) : Prop := csvSuffix <:+ name.toList.map Char.toLower

instance (name : String) : Decidable (EndsInCsv name) :=
  inferInstanceAs (Decidable (csvSuffix <:+ name.toList.map Char.toLower))

namespace Text

/-! ## ASCII -/

def capitals : CaseRun := ⟨0x41, 0x5A, 1, 0x61⟩

/-- no other run begins among the ASCII characters -/
theorem find?_lowercaseRuns_ascii {n : Nat} (h : n < 0x80) :
    lowercaseRuns.find? (·.holds n) = if capitals.holds n then some capitals else none := by
  have high : ∀ run ∈ lowercaseRuns.tail, 0x80 ≤ run.first := by decide +kernel
  have others : lowercaseRuns.tail.find? (·.holds n) = none := by
    refine List.find?_eq_none.mpr fun run hr holds => ?_
    have hfirst := high run hr
    simp only [CaseRun.holds, Bool.and_eq_true, decide_eq_true_eq] at holds
    omega
  show (capitals :: lowercaseRuns.tail).find? _ = _
  rw [List.find?_cons, others]
  cases capitals.holds n <;> rfl

theorem lowerChar_ascii {c : Char} (h : c.toNat < 0x80) : lowerChar c = [c.toLower] := by
  have hi : c ≠ 'İ' := by
    rintro rfl
    exact absurd h (by decide)
  have all : ∀ n < 0x80, (if capitals.holds n then Char.ofNat (0x61 + (n - 0x41)) else Char.ofNat n)
      = (Char.ofNat n).toLower := by decide +kernel
  have hc := all c.toNat h
  rw [Char.ofNat_toNat] at hc
  rw [lowerChar, if_neg hi, find?_lowercaseRuns_ascii h, ← hc]
  cases capitals.holds c.toNat <;> rfl

theorem toNat_lt_of_toLower {c : Char} (h : c.toLower.toNat < 0x80) : c.toNat < 0x80 := by
  unfold Char.toLower at h
  split at h
  · rename_i hc
    have : c.toNat ≤ 0x5A := hc.2
    omega
  · exact h

theorem lowerAfter_ascii {cs : List Char} (h : ∀ c ∈ cs, c.toNat < 0x80) (before : List Char) :
    lowerAfter before cs = cs.map Char.toLower := by
  induction cs generalizing before with
  | nil => rfl
  | cons c cs ih =>
    have hc : c.toNat < 0x80 := h c List.mem_cons_self
    have hs : c ≠ 'Σ' := by
      rintro rfl
      exact absurd hc (by decide)
    rw [lowerAfter, if_neg hs, lowerChar_ascii hc, List.map_cons,
      ih fun d hd => h d (List.mem_cons_of_mem _ hd)]
    rfl

/-! ## the characters of the suffix -/

theorem toNat_csvSuffix : ∀ d ∈ csvSuffix, '.'.toNat ≤ d.toNat ∧ d.toNat < 0x80 := by
  simp [csvSuffix]

theorem toNat_ofNat_cases (n : Nat) : (Char.ofNat n).toNat = n ∨ (Char.ofNat n).toNat = 0 := by
  by_cases valid : n.isValidChar
  · rw [Char.ofNat, dif_pos valid]
    exact Or.inl rfl
  · rw [Char.ofNat, dif_neg valid]
    exact Or.inr rfl

/-- beyond ASCII only the Kelvin sign becomes an ASCII character -/
theorem image_lowercaseRuns : ∀ run ∈ lowercaseRuns.tail,
    0x80 ≤ run.image ∨ run.image = 'k'.toNat ∧ run.last = run.first := by
  decide +kernel

theorem toNat_lt_of_mem_lowerChar {c d : Char} (hd : d ∈ csvSuffix) (h : d ∈ lowerChar c) :
    c.toNat < 0x80 := by
  obtain ⟨low, high⟩ := toNat_csvSuffix d hd
  have point : '.'.toNat = 0x2E := rfl
  unfold lowerChar at h
  split at h
  · simp only [List.mem_cons, List.not_mem_nil, or_false] at h
    rcases h with rfl | rfl <;> exact absurd hd (by decide)
  · split at h
    · rename_i run found
      have holds := List.find?_some found
      simp only [CaseRun.holds, Bool.and_eq_true, decide_eq_true_eq] at holds
      rcases List.mem_cons.mp (List.mem_of_find?_eq_some found) with rfl | other
      · have last : c.toNat ≤ 0x5A := holds.1.2
        omega
      · rw [List.mem_singleton] at h
        have number := toNat_ofNat_cases (run.image + (c.toNat - run.first))
        rw [← h] at number
        rcases image_lowercaseRuns run other with beyond | ⟨kelvin, one⟩
        · omega
        · have k : d = 'k' := by
            rw [h, show run.image + (c.toNat - run.first) = 'k'.toNat by omega]
            rfl
          rw [k] at hd
          exact absurd hd (by decide)
    · rw [List.mem_singleton] at h
      exact h ▸ high

/-! ## the last characters -/

/-- what stands before a text only matters to its sigmas -/
theorem lowerAfter_append (before xs ys : List Char) :
    ∃ image, lowerAfter before (xs ++ ys) = image ++ lowerAfter (xs.reverse ++ before) ys := by
  induction xs generalizing before with
  | nil => exact ⟨[], rfl⟩
  | cons c cs ih =>
    obtain ⟨image, h⟩ := ih (c :: before)
    rw [List.cons_append, lowerAfter, h, List.reverse_cons, List.append_assoc]
    exact ⟨_, (List.append_assoc ..).symm⟩

/-- the image of one character, which is that character alone if the suffix has a part in it -/
theorem lowerAfter_cons (before : List Char) (c : Char) (cs : List Char) :
    ∃ image, lowerAfter before (c :: cs) = image ++ lowerAfter (c :: before) cs ∧ image ≠ [] ∧
      ∀ d ∈ image, d ∈ csvSuffix → c.toNat < 0x80 ∧ image = [c.toLower] := by
  refine ⟨_, rfl, ?_⟩
  split
  · have sigma (d : Char) (hd : d = 'ς' ∨ d = 'σ') : d ∉ csvSuffix := by
      rcases hd with rfl | rfl <;> decide
    split
    · exact ⟨List.cons_ne_nil _ _, fun d hd mem => absurd mem (sigma d (by simp_all))⟩
    · exact ⟨List.cons_ne_nil _ _, fun d hd mem => absurd mem (sigma d (by simp_all))⟩
  · refine ⟨?_, fun d hd mem => ?_⟩
    · unfold lowerChar
      split
      · exact List.cons_ne_nil _ _
      · split <;> exact List.cons_ne_nil _ _
    · have ascii := toNat_lt_of_mem_lowerChar mem hd
      exact ⟨ascii, lowerChar_ascii ascii⟩

theorem ascii_of_lowerAfter {before cs : List Char} (h : lowerAfter before cs ⊆ csvSuffix) :
    ∀ c ∈ cs, c.toNat < 0x80 := by
  induction cs generalizing before with
  | nil => exact List.forall_mem_nil _
  | cons c cs ih =>
    obtain ⟨image, lowered, ne, plain⟩ := lowerAfter_cons before c cs
    rw [lowered, List.append_subset] at h
    obtain ⟨d, rest, rfl⟩ := List.exists_cons_of_ne_nil ne
    have first : d ∈ csvSuffix := h.1 List.mem_cons_self
    exact List.forall_mem_cons.mpr ⟨(plain d List.mem_cons_self first).1, ih h.2⟩

theorem ascii_of_map_toLower {cs : List Char} (h : cs.map Char.toLower ⊆ csvSuffix) :
    ∀ c ∈ cs, c.toNat < 0x80 := fun _ hc =>
  toNat_lt_of_toLower (toNat_csvSuffix _ (h (List.mem_map_of_mem hc))).2

theorem lowercase_eq_iff {cs s : List Char} (hs : s ⊆ csvSuffix) :
    lowercase cs = s ↔ cs.map Char.toLower = s := by
  constructor
  · rintro rfl
    exact (lowerAfter_ascii (ascii_of_lowerAfter hs) []).symm
  · rintro rfl
    exact lowerAfter_ascii (ascii_of_map_toLower hs) []

theorem suffix_lowerAfter_iff {s : List Char} (hs : s ⊆ csvSuffix) {before cs : List Char} :
    s <:+ lowerAfter before cs ↔ s <:+ cs.map Char.toLower := by
  constructor
  · intro h
    induction cs generalizing before with
    | nil => exact h
    | cons c cs ih =>
      obtain ⟨image, lowered, -, plain⟩ := lowerAfter_cons before c cs
      have later : s <:+ lowerAfter (c :: before) cs → s <:+ (c :: cs).map Char.toLower := fun h =>
        (ih h).trans (List.suffix_cons _ _)
      rw [lowered] at h
      -- a part of the suffix in the image makes the whole text a part of the suffix
      rcases List.suffix_or_suffix_of_suffix h (List.suffix_append image _) with inRest | ⟨t, rfl⟩
      · exact later inRest
      · rw [List.suffix_append_self_iff] at h
        cases t with
        | nil => exact later (List.suffix_refl _)
        | cons d ds =>
          obtain ⟨-, alone⟩ := plain d (h.subset List.mem_cons_self) (hs List.mem_cons_self)
          have all : d :: ds = image := h.eq_of_length_le (by simp [alone])
          rw [all, ← lowered] at hs ⊢
          exact ⟨[], lowerAfter_ascii (ascii_of_lowerAfter hs) before⟩
  · intro h
    obtain ⟨ys, ⟨xs, rfl⟩, rfl⟩ := List.suffix_map_iff.mp h
    obtain ⟨image, himage⟩ := lowerAfter_append before xs ys
    rw [himage, lowerAfter_ascii (ascii_of_map_toLower hs)]
    exact List.suffix_append _ _

end Text

theorem suffix_lowercase_iff (name : String) :
    csvSuffix <:+ Text.lowercase name.toList ↔ EndsInCsv name :=
  Text.suffix_lowerAfter_iff (List.Subset.refl _)

theorem ofName_eq_csv {name : String} (h : EndsInCsv name) : FileKind.ofName name = .csv :=
  if_pos ((suffix_lowercase_iff name).mpr h)

end TableChart
