import TableChart.Dataset
import TableChart.Proofs.Csv.Decoded
import TableChart.Proofs.Csv.WrittenRows
import TableChart.Proofs.File.Suffix

/-!
# Files that are texts

The reader sees bytes, and only afterwards is every field decoded by itself.  Still a file that is a
text has no undecodable field, however its quotes are placed.

* `Scan.OfTexts`          every field that is complete, and the open one, are the bytes of texts;
* `Scan.step_cases`       what one byte can do: it is taken into the field or left out, or it ends the
                          field or the row;
* `Scan.foldl_char`       the bytes of a character keep `OfTexts`: a byte below `0x80` is a character by
                          itself, and those above mean nothing to the reader and are taken in together;
* `csvRows_of_isText`     so the fields of a text are texts;
* `Dataset.text_is_readable`   a file of that kind is loaded, if it does not have too many rows.
-/

namespace TableChart

namespace Scan

/-! ## single bytes -/

section
variable (s : Scan)

theorem bareStep_cases (b : UInt8) :
    s.bareStep b = s.push .bare b ∨ s.bareStep b = s.endField ∨ s.bareStep b = s.endRow := by
  unfold bareStep
  split
  · exact Or.inr (Or.inl rfl)
  · split
    · exact Or.inr (Or.inr rfl)
    · exact Or.inl rfl

theorem step_cases (b : UInt8) :
    (∃ mode, s.step b = { s with mode }) ∨ (∃ mode, s.step b = s.push mode b) ∨
      s.step b = s.endField ∨ s.step b = s.endRow := by
  have bare : (∃ mode, s.bareStep b = s.push mode b) ∨ s.bareStep b = s.endField ∨
      s.bareStep b = s.endRow := (s.bareStep_cases b).imp_left fun h => ⟨_, h⟩
  have first : (∃ mode, s.firstStep b = { s with mode }) ∨ (∃ mode, s.firstStep b = s.push mode b) ∨
      s.firstStep b = s.endField ∨ s.firstStep b = s.endRow := by
    unfold firstStep
    split
    · exact Or.inl ⟨_, rfl⟩
    · exact Or.inr bare
  unfold step
  split
  · split
    · exact Or.inl ⟨s.mode, rfl⟩
    · exact first
  · exact first
  · exact Or.inr bare
  · split
    · exact Or.inl ⟨_, rfl⟩
    · exact Or.inr (Or.inl ⟨_, rfl⟩)
  · split
    · exact Or.inr (Or.inl ⟨_, rfl⟩)
    · exact Or.inr bare

/-- a byte that means nothing to the reader is taken in, wherever the reader stands -/
theorem step_of_high {b : UInt8} (h : 0x80 ≤ b.toNat) : ∃ mode, s.step b = s.push mode b := by
  have quote : b ≠ quoteByte := by
    rintro rfl
    exact absurd h (by decide)
  have comma : b ≠ commaByte := by
    rintro rfl
    exact absurd h (by decide)
  have noBreak : isBreak b = false := by
    rw [isBreak, Bool.or_eq_false_iff, beq_eq_false_iff_ne, beq_eq_false_iff_ne]
    constructor <;> rintro rfl <;> exact absurd h (by decide)
  unfold step firstStep bareStep
  rw [if_neg quote, if_neg quote, if_neg quote, if_neg comma, noBreak]
  split <;> exact ⟨_, rfl⟩

theorem foldl_high {bytes : List UInt8} (h : ∀ b ∈ bytes, 0x80 ≤ b.toNat) :
    ∃ mode, bytes.foldl step s = { s with mode, field := bytes.reverse ++ s.field } := by
  induction bytes generalizing s with
  | nil => exact ⟨s.mode, rfl⟩
  | cons b bs ih =>
    obtain ⟨mode, first⟩ := s.step_of_high (h b List.mem_cons_self)
    obtain ⟨mode', rest⟩ := ih (s.push mode b) fun c hc => h c (List.mem_cons_of_mem _ hc)
    refine ⟨mode', ?_⟩
    rw [List.foldl_cons, first, rest, List.reverse_cons, List.append_assoc]
    rfl

end

theorem forall_mem_endRow_iff {s : Scan} {P : List UInt8 → Prop} :
    (∀ r ∈ s.endRow.rows, ∀ f ∈ r, P f) ↔
      P s.field.reverse ∧ (∀ f ∈ s.row, P f) ∧ ∀ r ∈ s.rows, ∀ f ∈ r, P f := by
  unfold endRow
  rw [List.forall_mem_cons, ← and_assoc]
  refine and_congr_left' ?_
  rw [← List.forall_mem_cons]
  exact ⟨fun h f hf => h f (List.mem_reverse.mpr hf), fun h f hf => h f (List.mem_reverse.mp hf)⟩

/-! ## the invariant -/

structure OfTexts (s : Scan) : Prop where
  field : IsText s.field.reverse
  row : ∀ f ∈ s.row, IsText f
  rows : ∀ r ∈ s.rows, ∀ f ∈ r, IsText f

namespace OfTexts
variable {s : Scan} (h : OfTexts s)
include h

theorem withMode (mode : Mode) : OfTexts { s with mode } := ⟨h.field, h.row, h.rows⟩

theorem take {bytes : List UInt8} (text : IsText bytes) (mode : Mode) :
    OfTexts { s with mode, field := bytes.reverse ++ s.field } where
  field := by
    show IsText (bytes.reverse ++ s.field).reverse
    rw [List.reverse_append, List.reverse_reverse]
    exact h.field.append text
  row := h.row
  rows := h.rows

theorem endField : OfTexts s.endField where
  field := isText_nil
  row := List.forall_mem_cons.mpr ⟨h.field, h.row⟩
  rows := h.rows

theorem endRow : OfTexts s.endRow where
  field := isText_nil
  row := List.forall_mem_nil _
  rows := forall_mem_endRow_iff.mpr ⟨h.field, h.row, h.rows⟩

theorem foldl_char (c : Char) : OfTexts ((String.utf8EncodeChar c).foldl step s) := by
  have text := isText_utf8EncodeChar c
  rcases utf8EncodeChar_cases c with ⟨b, hb⟩ | high
  · rw [hb] at text ⊢
    show OfTexts (s.step b)
    rcases s.step_cases b with ⟨mode, e⟩ | ⟨mode, e⟩ | e | e <;> rw [e]
    · exact h.withMode mode
    · exact h.take text mode
    · exact h.endField
    · exact h.endRow
  · obtain ⟨mode, e⟩ := s.foldl_high high
    rw [e]
    exact h.take text mode

theorem foldl_chars (cs : List Char) : OfTexts ((cs.flatMap String.utf8EncodeChar).foldl step s) := by
  induction cs generalizing s with
  | nil => exact h
  | cons c cs ih =>
    rw [List.flatMap_cons, List.foldl_append]
    exact ih (h.foldl_char c)

theorem finish : ∀ r ∈ s.finish, ∀ f ∈ r, IsText f := by
  intro r hr
  unfold Scan.finish at hr
  rw [List.mem_reverse] at hr
  split at hr
  · exact h.rows r hr
  · exact h.endRow.rows r hr

end OfTexts

theorem ofTexts_start : OfTexts start := ⟨isText_nil, List.forall_mem_nil _, List.forall_mem_nil _⟩

end Scan

/-! ## files -/

theorem withoutMark_of_isText {bytes : List UInt8} (h : IsText bytes) :
    IsText (withoutMark bytes) := by
  by_cases mark : byteOrderMark <+: bytes
  · obtain ⟨s, rfl⟩ := h
    cases hs : s.toList with
    | nil =>
      rw [utf8, hs] at mark
      exact absurd mark (by decide)
    | cons c cs =>
      rw [utf8, hs, List.flatMap_cons] at mark ⊢
      have first := eq_mark_of_prefix mark
      rw [first, utf8EncodeChar_mark, withoutMark_mark]
      exact isText_flatMap cs
  · rw [withoutMark_eq_self mark]
    exact h

theorem csvRows_of_isText {bytes : List UInt8} (h : IsText bytes) :
    ∀ row ∈ csvRows bytes, ∀ field ∈ row, IsText field := by
  obtain ⟨s, hs⟩ := withoutMark_of_isText h
  rw [csvRows, ← hs]
  exact (Scan.ofTexts_start.foldl_chars s.toList).finish

theorem Dataset.ofRows_cases (limits : RowLimits) (rows : List (List String)) :
    (∃ d, ofRows limits rows = .ok d) ∨ ofRows limits rows = .error (.tooManyRows limits.cap) := by
  cases rows with
  | nil => exact Or.inl ⟨_, rfl⟩
  | cons headers rows =>
    rw [ofRows]
    split
    · exact Or.inr rfl
    · exact Or.inl ⟨_, rfl⟩

theorem Dataset.ofFile_of_texts {name : String} (csv : FileKind.ofName name = .csv)
    {bytes : List UInt8} (texts : ∀ row ∈ csvRows bytes, ∀ field ∈ row, IsText field)
    (limits : RowLimits) :
    (∃ d, ofFile name bytes limits = .ok d) ∨
      ofFile name bytes limits = .error (.tooManyRows limits.cap) := by
  obtain ⟨rows, cells⟩ := csvCells?_of_texts texts
  unfold ofFile
  rw [if_pos csv, cells]
  exact ofRows_cases limits rows

/-- **Every text is readable.**  Each field that is cut out of valid UTF-8 is valid UTF-8, wherever
quotes, commas and line breaks stand, so a file under a proper name is loaded, or has too many rows. -/
theorem Dataset.text_is_readable {name : String} (hname : EndsInCsv name) {bytes : List UInt8}
    (valid : bytes.toByteArray.IsValidUTF8) (limits : RowLimits) :
    (∀ row ∈ csvRows bytes, ∀ field ∈ row, field.toByteArray.IsValidUTF8) ∧
    ((∃ d, ofFile name bytes limits = .ok d) ∨
      ofFile name bytes limits = .error (.tooManyRows limits.cap)) := by
  have texts := csvRows_of_isText ((isText_iff bytes).mpr valid)
  exact ⟨fun row hrow field hfield => (isText_iff field).mp (texts row hrow field hfield),
    ofFile_of_texts (ofName_eq_csv hname) texts limits⟩

/-- a quote is left open, another stands inside a bare field, and text follows a closing quote -/
theorem Dataset.text_is_readable_malformed :
    (utf8 "a\"é,\"b\"ü\r\n\"ß,\n").toByteArray.IsValidUTF8 ∧
      csvRows (utf8 "a\"é,\"b\"ü\r\n\"ß,\n") = [[utf8 "a\"é", utf8 "bü"], [utf8 "ß,\n"]] ∧
      ((∃ d, ofFile "t.CSV" (utf8 "a\"é,\"b\"ü\r\n\"ß,\n") {} = .ok d) ∨
        ofFile "t.CSV" (utf8 "a\"é,\"b\"ü\r\n\"ß,\n") {} = .error (.tooManyRows 50000)) := by
  have valid := (isText_iff _).mp ⟨"a\"é,\"b\"ü\r\n\"ß,\n", rfl⟩
  exact ⟨valid, by decide, (text_is_readable (by decide) valid {}).2⟩

end TableChart
