import TableChart.Csv.Cells

/-!
# Texts as bytes

* `utf8`                       the UTF-8 bytes of a text;
* `decodeField?_utf8`          a field that holds them is decoded to the text;
* `IsText`                     the bytes of some text, which is what the standard calls valid;
* `exists_char_of_mem_utf8`    a byte below `0x80` stands for a character of that number, so commas,
                               quotes and line breaks among the bytes are those of the text;
* `isText_append_iff`          such a byte parts a text into two texts;
* `eq_mark_of_prefix`          only the character U+FEFF is written as the byte order mark.
-/

namespace TableChart

def utf8 (s : String) : List UInt8 := s.toList.flatMap String.utf8EncodeChar

theorem toByteArray_utf8 (s : String) : (utf8 s).toByteArray = s.toByteArray :=
  String.utf8Encode_toList

theorem decodeField?_utf8 (s : String) : decodeField? (utf8 s) = some s := by
  unfold decodeField?
  rw [toByteArray_utf8]
  exact dif_pos s.isValidUTF8

theorem decodeField?_eq_some_iff {bytes : List UInt8} {s : String} :
    decodeField? bytes = some s ↔ utf8 s = bytes := by
  constructor
  · intro h
    unfold decodeField? String.fromUTF8? at h
    split at h
    · cases h
      exact List.toByteArray_inj.mp (toByteArray_utf8 _)
    · cases h
  · rintro rfl
    exact decodeField?_utf8 s

/-! ## bytes of a text -/

def IsText (bytes : List UInt8) : Prop := ∃ s, utf8 s = bytes

theorem utf8_ofList (cs : List Char) : utf8 (String.ofList cs) = cs.flatMap String.utf8EncodeChar :=
  congrArg (List.flatMap String.utf8EncodeChar) String.toList_ofList

theorem isText_flatMap (cs : List Char) : IsText (cs.flatMap String.utf8EncodeChar) :=
  ⟨String.ofList cs, utf8_ofList cs⟩

theorem isText_nil : IsText [] := ⟨"", rfl⟩

theorem IsText.append {bytes rest : List UInt8} (h : IsText bytes) (h' : IsText rest) :
    IsText (bytes ++ rest) := by
  obtain ⟨s, rfl⟩ := h
  obtain ⟨t, rfl⟩ := h'
  rw [utf8, utf8, ← List.flatMap_append]
  exact isText_flatMap _

theorem isText_utf8EncodeChar (c : Char) : IsText (String.utf8EncodeChar c) :=
  ⟨String.ofList [c], (utf8_ofList [c]).trans (List.flatMap_singleton ..)⟩

theorem isText_iff (bytes : List UInt8) : IsText bytes ↔ bytes.toByteArray.IsValidUTF8 := by
  constructor
  · rintro ⟨s, rfl⟩
    exact ⟨s.toList, rfl⟩
  · rintro ⟨cs, h⟩
    rw [List.toByteArray_inj.mp h]
    exact isText_flatMap cs

/-! ## bytes below `0x80` -/

private theorem not_low {n : Nat} {b : UInt8} (e : b = UInt8.ofNat n) (h : b.toNat < 0x80)
    (low : 0x80 ≤ n) (high : n < 0x100) : False := by
  rw [e, UInt8.toNat_ofNat'] at h
  omega

/-- the bytes of a character are its number alone, or all at least `0x80` -/
theorem toNat_of_mem_utf8EncodeChar {c : Char} {b : UInt8} (hb : b ∈ String.utf8EncodeChar c)
    (h : b.toNat < 0x80) : c.toNat = b.toNat := by
  have hv : c.toNat = c.val.toNat := rfl
  unfold String.utf8EncodeChar at hb
  dsimp only at hb
  split at hb
  · rw [List.mem_singleton] at hb
    rw [hb, UInt8.toNat_ofNat']
    omega
  · exfalso
    split at hb
    · simp only [List.mem_cons, List.not_mem_nil, or_false] at hb
      rcases hb with e | e <;> exact not_low e h (by omega) (by omega)
    · split at hb
      · simp only [List.mem_cons, List.not_mem_nil, or_false] at hb
        rcases hb with e | e | e <;> exact not_low e h (by omega) (by omega)
      · simp only [List.mem_cons, List.not_mem_nil, or_false] at hb
        rcases hb with e | e | e | e <;> exact not_low e h (by omega) (by omega)

theorem exists_char_of_mem_utf8 {s : String} {b : UInt8} (hb : b ∈ utf8 s) (h : b.toNat < 0x80) :
    ∃ c ∈ s.toList, c.toNat = b.toNat := by
  obtain ⟨c, hc, hbc⟩ := List.mem_flatMap.mp hb
  exact ⟨c, hc, toNat_of_mem_utf8EncodeChar hbc h⟩

/-- a character is a byte below `0x80`, or bytes above -/
theorem utf8EncodeChar_cases (c : Char) :
    (∃ b, String.utf8EncodeChar c = [b]) ∨ ∀ b ∈ String.utf8EncodeChar c, 0x80 ≤ b.toNat := by
  by_cases low : c.toNat < 0x80
  · refine Or.inl ⟨_, if_pos ?_⟩
    exact Nat.lt_succ_iff.mp low
  · refine Or.inr fun b hb => Nat.le_of_not_lt fun hlt => low ?_
    rw [toNat_of_mem_utf8EncodeChar hb hlt]
    exact hlt

theorem isText_low {b : UInt8} (low : b.toNat < 0x80) : IsText [b] := by
  have valid : b.toNat.isValidChar := Or.inl (by omega)
  have value : (Char.ofNat b.toNat).val.toNat = b.toNat := by
    rw [Char.ofNat, dif_pos valid]
    rfl
  have char : String.utf8EncodeChar (Char.ofNat b.toNat) = [b] := by
    refine (if_pos ?_).trans ?_
    · rw [value]
      exact Nat.lt_succ_iff.mp low
    · rw [value, UInt8.ofNat_toNat]
  exact char ▸ isText_utf8EncodeChar _

theorem isText_append_iff {b : UInt8} (low : b.toNat < 0x80) (xs ys : List UInt8) :
    IsText (xs ++ b :: ys) ↔ IsText xs ∧ IsText ys := by
  constructor
  · rintro ⟨s, hs⟩
    unfold utf8 at hs
    generalize s.toList = cs at hs
    induction cs generalizing xs with
    | nil => exact absurd hs.symm (List.append_ne_nil_of_right_ne_nil xs (List.cons_ne_nil b ys))
    | cons c cs ih =>
      rw [List.flatMap_cons] at hs
      have text := isText_utf8EncodeChar c
      rcases utf8EncodeChar_cases c with ⟨d, hd⟩ | high
      · rw [hd] at hs text
        cases xs with
        | nil =>
          obtain ⟨rfl, rfl⟩ := List.cons.inj hs
          exact ⟨isText_nil, isText_flatMap cs⟩
        | cons x xs =>
          obtain ⟨rfl, rest⟩ := List.cons.inj hs
          obtain ⟨front, back⟩ := ih xs rest
          exact ⟨text.append front, back⟩
      · -- the byte is no part of a character of higher bytes
        rcases List.append_eq_append_iff.mp hs with ⟨front, rfl, rest⟩ | ⟨part, whole, rest⟩
        · obtain ⟨front, back⟩ := ih _ rest
          exact ⟨text.append front, back⟩
        · cases part with
          | nil =>
            rw [List.append_nil] at whole
            obtain ⟨-, back⟩ := ih [] rest.symm
            exact ⟨whole ▸ text, back⟩
          | cons d part =>
            obtain ⟨rfl, -⟩ := List.cons.inj rest
            have := high b (whole ▸ List.mem_append_right xs List.mem_cons_self)
            omega
  · rintro ⟨front, back⟩
    exact front.append ((isText_low low).append back)

/-! ## the byte order mark -/

def byteOrderMark : List UInt8 := [0xEF, 0xBB, 0xBF]

theorem utf8EncodeChar_mark : String.utf8EncodeChar '\uFEFF' = byteOrderMark := by decide

theorem eq_mark_of_prefix {c : Char} {bytes : List UInt8}
    (h : byteOrderMark <+: String.utf8EncodeChar c ++ bytes) : c = '\uFEFF' := by
  obtain ⟨rest, hr⟩ := h
  rw [← utf8EncodeChar_mark] at hr
  have e : (String.utf8EncodeChar '\uFEFF').toByteArray ++ rest.toByteArray
      = (String.utf8EncodeChar c).toByteArray ++ bytes.toByteArray := by
    rw [← List.toByteArray_append, ← List.toByteArray_append, hr]
  have d := ByteArray.utf8DecodeChar?_utf8EncodeChar_append (b := bytes.toByteArray) (c := c)
  rw [← e, ByteArray.utf8DecodeChar?_utf8EncodeChar_append] at d
  exact (Option.some.inj d).symm

end TableChart
