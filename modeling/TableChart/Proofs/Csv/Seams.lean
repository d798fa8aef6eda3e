import Mathlib.Data.List.Infix
import TableChart.Proofs.Csv.Texts
import TableChart.Proofs.Table.Limits

/-!
# Seams

A quoted field may go on bare behind its closing quote.  The quote is left out of the field, and the
bytes on either side of it are sewn together before they are decoded: two halves of a character that a
quote parts become the character.

* `Seam bytes`                a closing quote behind which the field goes on;
* `withoutSeams bytes`        the bytes of a file without such quotes;
* `Scan.leadsTo_step`         what becomes of a field, and of the bytes to come, at a single byte;
* `csvRows_texts_iff`         all fields are texts exactly if the file is one without its seams;
* `Dataset.refused_unless_sewn`   so a file that is no text is refused, if it has no seams.
-/

namespace TableChart

/-! ## the bytes of a file without its seams -/

/-- bytes behind which a quoted field does not go on bare -/
def endsQuoted (b : UInt8) : Bool := b == quoteByte || b == commaByte || isBreak b

namespace Mode

/-- in a quoted field a quote is held back until the next byte tells what it is -/
def held : Mode → List UInt8
  | quoteSeen => [quoteByte]
  | _ => []

/-- what a byte adds to the bytes that are kept -/
def release : Mode → UInt8 → List UInt8
  | quoted, b => if b = quoteByte then [] else [b]
  | quoteSeen, b => if endsQuoted b then [quoteByte, b] else [b]
  | _, b => [b]

end Mode

namespace Scan

def keep (s : Scan) : List UInt8 → List UInt8
  | [] => s.mode.held
  | b :: bs => s.mode.release b ++ (s.step b).keep bs

end Scan

def withoutSeams (bytes : List UInt8) : List UInt8 := Scan.start.keep (withoutMark bytes)

/-! ## bytes and texts -/

theorem low_of_isBreak {b : UInt8} (h : isBreak b) : b.toNat < 0x80 := by
  rcases (isBreak_iff b).mp h with rfl | rfl <;> decide

theorem low_of_endsQuoted {b : UInt8} (h : endsQuoted b) : b.toNat < 0x80 := by
  unfold endsQuoted at h
  rw [Bool.or_eq_true, Bool.or_eq_true, beq_iff_eq, beq_iff_eq] at h
  rcases h with (rfl | rfl) | ends
  · decide
  · decide
  · exact low_of_isBreak ends

namespace Scan

/-- the fields are texts, and so is the open one with the bytes that are still to come -/
structure LeadsTo (s : Scan) (rest : List UInt8) : Prop where
  field : IsText (s.field.reverse ++ rest)
  row : ∀ f ∈ s.row, IsText f
  rows : ∀ r ∈ s.rows, ∀ f ∈ r, IsText f

section
variable {s : Scan} {b : UInt8} {rest : List UInt8}

theorem leadsTo_withMode (mode : Mode) : ({ s with mode } : Scan).LeadsTo rest ↔ s.LeadsTo rest :=
  ⟨fun h => ⟨h.field, h.row, h.rows⟩, fun h => ⟨h.field, h.row, h.rows⟩⟩

theorem leadsTo_push (mode : Mode) : (s.push mode b).LeadsTo rest ↔ s.LeadsTo (b :: rest) := by
  have same : (s.push mode b).field.reverse ++ rest = s.field.reverse ++ b :: rest :=
    List.reverse_cons ▸ List.append_assoc ..
  exact ⟨fun h => ⟨same ▸ h.field, h.row, h.rows⟩, fun h => ⟨same ▸ h.field, h.row, h.rows⟩⟩

theorem leadsTo_endField (low : b.toNat < 0x80) : s.endField.LeadsTo rest ↔ s.LeadsTo (b :: rest) := by
  constructor
  · intro h
    obtain ⟨field, row⟩ := List.forall_mem_cons.mp h.row
    exact ⟨(isText_append_iff low _ _).mpr ⟨field, h.field⟩, row, h.rows⟩
  · intro h
    obtain ⟨field, later⟩ := (isText_append_iff low _ _).mp h.field
    exact ⟨later, List.forall_mem_cons.mpr ⟨field, h.row⟩, h.rows⟩

theorem leadsTo_endRow (low : b.toNat < 0x80) : s.endRow.LeadsTo rest ↔ s.LeadsTo (b :: rest) := by
  constructor
  · intro h
    obtain ⟨field, row, rows⟩ := forall_mem_endRow_iff.mp h.rows
    exact ⟨(isText_append_iff low _ _).mpr ⟨field, h.field⟩, row, rows⟩
  · intro h
    obtain ⟨field, later⟩ := (isText_append_iff low _ _).mp h.field
    exact ⟨later, List.forall_mem_nil _, forall_mem_endRow_iff.mpr ⟨field, h.row, h.rows⟩⟩

/-- bytes to come may be exchanged if that makes no difference to the open field -/
theorem leadsTo_congr {rest' : List UInt8}
    (texts : IsText (s.field.reverse ++ rest) ↔ IsText (s.field.reverse ++ rest')) :
    s.LeadsTo rest ↔ s.LeadsTo rest' :=
  ⟨fun h => ⟨texts.mp h.field, h.row, h.rows⟩, fun h => ⟨texts.mpr h.field, h.row, h.rows⟩⟩

theorem leadsTo_held (low : b.toNat < 0x80) :
    s.LeadsTo (quoteByte :: b :: rest) ↔ s.LeadsTo (b :: rest) := by
  have first : IsText (b :: rest) ↔ IsText [] ∧ IsText rest := isText_append_iff low [] rest
  refine leadsTo_congr ?_
  rw [isText_append_iff (by decide), isText_append_iff low, first, and_iff_right isText_nil]

/-- before a field a byte may be left out -/
theorem leadsTo_skip (empty : s.field = []) (low : b.toNat < 0x80) :
    s.LeadsTo rest ↔ s.LeadsTo (b :: rest) := by
  refine leadsTo_congr ?_
  rw [empty]
  exact ((isText_append_iff low [] rest).trans (and_iff_right isText_nil)).symm

theorem leadsTo_bareStep (b : UInt8) : (s.bareStep b).LeadsTo rest ↔ s.LeadsTo (b :: rest) := by
  unfold bareStep
  split
  · rename_i comma
    exact leadsTo_endField (comma ▸ by decide)
  · split
    · rename_i ends
      exact leadsTo_endRow (low_of_isBreak ends)
    · exact leadsTo_push .bare

theorem leadsTo_firstStep (empty : s.field = []) (b : UInt8) :
    (s.firstStep b).LeadsTo rest ↔ s.LeadsTo (b :: rest) := by
  unfold firstStep
  split
  · rename_i quote
    exact (leadsTo_withMode .quoted).trans (leadsTo_skip empty (quote ▸ by decide))
  · exact leadsTo_bareStep b

end

/-! ## a byte, and all of them -/

/-- before a field nothing is open, and before a row nothing is read of it -/
structure Aligned (s : Scan) : Prop where
  clean : s.Clean
  field : s.mode = .fieldStart → s.field = []

theorem field_bareStep (s : Scan) (b : UInt8) :
    (s.bareStep b).mode = .fieldStart → (s.bareStep b).field = [] := by
  rcases s.bareStep_cases b with e | e | e <;> rw [e]
  · exact nofun
  · exact fun _ => rfl
  · exact nofun

theorem field_firstStep (s : Scan) (b : UInt8) :
    (s.firstStep b).mode = .fieldStart → (s.firstStep b).field = [] := by
  unfold firstStep
  split
  · exact nofun
  · exact s.field_bareStep b

theorem field_step (s : Scan) (b : UInt8) :
    (s.step b).mode = .fieldStart → (s.step b).field = [] := by
  unfold step
  split
  · rename_i before
    split
    · exact fun begins => nomatch before.symm.trans begins
    · exact s.field_firstStep b
  · exact s.field_firstStep b
  · exact s.field_bareStep b
  · split <;> exact nofun
  · split
    · exact nofun
    · exact s.field_bareStep b

theorem Aligned.step {s : Scan} (h : s.Aligned) (b : UInt8) : (s.step b).Aligned :=
  ⟨h.clean.step b, s.field_step b⟩

theorem aligned_start : start.Aligned := ⟨fun _ => ⟨rfl, rfl⟩, nofun⟩

variable {s : Scan}

/-- a byte that is read may as well be taken to stand for its field, the quotes of a field apart -/
theorem leadsTo_step (h : s.Aligned) (b : UInt8) {rest : List UInt8} :
    (s.step b).LeadsTo rest ↔ s.LeadsTo (s.mode.release b ++ rest) := by
  obtain ⟨mode, field, row, rows⟩ := s
  cases mode with
  | rowStart =>
    have empty : field = [] := (h.clean rfl).1
    show (if isBreak b then _ else firstStep _ b).LeadsTo rest ↔ LeadsTo _ (b :: rest)
    split
    · rename_i ends
      exact leadsTo_skip empty (low_of_isBreak ends)
    · exact leadsTo_firstStep empty b
  | fieldStart => exact leadsTo_firstStep (h.field rfl) b
  | bare => exact leadsTo_bareStep b
  | quoted =>
    show (if b = quoteByte then _ else push _ .quoted b).LeadsTo rest ↔
      LeadsTo _ ((if b = quoteByte then [] else [b]) ++ rest)
    split
    · exact leadsTo_withMode .quoteSeen
    · exact leadsTo_push .quoted
  | quoteSeen =>
    let s : Scan := ⟨.quoteSeen, field, row, rows⟩
    have read : (s.step b).LeadsTo rest ↔ s.LeadsTo (b :: rest) := by
      show (if b = quoteByte then s.push .quoted b else s.bareStep b).LeadsTo rest ↔ _
      split
      · exact leadsTo_push .quoted
      · exact leadsTo_bareStep b
    show (s.step b).LeadsTo rest ↔
      s.LeadsTo ((if endsQuoted b then [quoteByte, b] else [b]) ++ rest)
    split
    · rename_i ends
      exact read.trans (leadsTo_held (low_of_endsQuoted ends)).symm
    · exact read

theorem texts_finish_iff (h : s.Aligned) :
    (∀ row ∈ s.finish, ∀ field ∈ row, IsText field) ↔ s.LeadsTo s.mode.held := by
  have held : IsText (s.field.reverse ++ s.mode.held) ↔ IsText s.field.reverse := by
    cases s.mode with
    | quoteSeen => exact (isText_append_iff (by decide) _ []).trans (and_iff_left isText_nil)
    | _ => exact iff_of_eq (congrArg IsText (List.append_nil _))
  have whole : s.LeadsTo s.mode.held ↔
      IsText s.field.reverse ∧ (∀ f ∈ s.row, IsText f) ∧ ∀ r ∈ s.rows, ∀ f ∈ r, IsText f :=
    ⟨fun t => ⟨held.mp t.field, t.row, t.rows⟩, fun t => ⟨held.mpr t.1, t.2.1, t.2.2⟩⟩
  rw [whole]
  by_cases before : s.mode = .rowStart
  · obtain ⟨mode, field, row, rows⟩ := s
    obtain rfl : mode = .rowStart := before
    obtain ⟨rfl, rfl⟩ := h.clean rfl
    show (∀ r ∈ rows.reverse, _) ↔ _
    simp only [List.mem_reverse]
    exact ⟨fun t => ⟨isText_nil, List.forall_mem_nil _, t⟩, fun t => t.2.2⟩
  · rw [finish_eq before, ← forall_mem_endRow_iff]
    exact ⟨fun t r hr => t r (List.mem_reverse.mpr hr), fun t r hr => t r (List.mem_reverse.mp hr)⟩

theorem texts_foldl_iff (h : s.Aligned) (bytes : List UInt8) :
    (∀ row ∈ (bytes.foldl step s).finish, ∀ field ∈ row, IsText field) ↔
      s.LeadsTo (s.keep bytes) := by
  induction bytes generalizing s with
  | nil => exact texts_finish_iff h
  | cons b bs ih => exact (ih (h.step b)).trans (leadsTo_step h b)

end Scan

/-! ## files -/

theorem csvRows_texts_iff (bytes : List UInt8) :
    (∀ row ∈ csvRows bytes, ∀ field ∈ row, IsText field) ↔ IsText (withoutSeams bytes) := by
  rw [csvRows, Scan.texts_foldl_iff Scan.aligned_start]
  exact ⟨fun h => h.field, fun h => ⟨h, List.forall_mem_nil _, List.forall_mem_nil _⟩⟩

/-- a quoted field is closed by the last byte of `front`, and goes on with the byte behind it -/
structure Seam (bytes : List UInt8) where
  front : List UInt8
  next : UInt8
  rest : List UInt8
  joined : front ++ next :: rest = withoutMark bytes
  closed : (front.foldl Scan.step Scan.start).mode = .quoteSeen
  goesOn : ¬ endsQuoted next

namespace Scan

theorem held_bareStep (s : Scan) (b : UInt8) : (s.bareStep b).mode.held = [] := by
  rcases s.bareStep_cases b with e | e | e <;> rw [e] <;> rfl

theorem held_firstStep (s : Scan) (b : UInt8) : (s.firstStep b).mode.held = [] := by
  unfold firstStep
  split
  · rfl
  · exact s.held_bareStep b

/-- without a seam a byte is kept, if late -/
theorem release_held {s : Scan} {b : UInt8} (h : s.mode = .quoteSeen → endsQuoted b) :
    s.mode.release b ++ (s.step b).mode.held = s.mode.held ++ [b] := by
  obtain ⟨mode, field, row, rows⟩ := s
  cases mode with
  | rowStart =>
    refine congrArg ([b] ++ ·) ?_
    show (if isBreak b then _ else firstStep _ b).mode.held = []
    split
    · rfl
    · exact held_firstStep _ b
  | fieldStart => exact congrArg ([b] ++ ·) (held_firstStep _ b)
  | bare => exact congrArg ([b] ++ ·) (held_bareStep _ b)
  | quoted =>
    show (if b = quoteByte then [] else [b]) ++
      (if b = quoteByte then _ else push _ .quoted b).mode.held = [b]
    split
    · rename_i quote
      exact quote ▸ rfl
    · rfl
  | quoteSeen =>
    show (if endsQuoted b then [quoteByte, b] else [b]) ++
      (if b = quoteByte then push _ .quoted b else bareStep _ b).mode.held = [quoteByte, b]
    rw [if_pos (h rfl)]
    refine congrArg ([quoteByte, b] ++ ·) ?_
    split
    · rfl
    · exact held_bareStep _ b

theorem keep_eq {s : Scan} {bytes : List UInt8}
    (h : ∀ front next rest, front ++ next :: rest = bytes →
      (front.foldl step s).mode = .quoteSeen → endsQuoted next) :
    s.keep bytes = s.mode.held ++ bytes := by
  induction bytes generalizing s with
  | nil => exact (List.append_nil _).symm
  | cons b bs ih =>
    have later := ih fun front next rest e closed => h (b :: front) next rest (congrArg _ e) closed
    have first : s.mode = .quoteSeen → endsQuoted b := h [] b bs rfl
    rw [keep, later, ← List.append_assoc, release_held first, List.append_assoc]
    rfl

end Scan

theorem withoutSeams_eq {bytes : List UInt8} (h : IsEmpty (Seam bytes)) :
    withoutSeams bytes = withoutMark bytes :=
  Scan.keep_eq fun front next rest joined closed =>
    by_contra fun goesOn => h.false ⟨front, next, rest, joined, closed, goesOn⟩

theorem isText_withoutMark_iff (bytes : List UInt8) : IsText (withoutMark bytes) ↔ IsText bytes := by
  refine ⟨fun h => ?_, withoutMark_of_isText⟩
  by_cases mark : byteOrderMark <+: bytes
  · obtain ⟨rest, rfl⟩ := mark
    rw [withoutMark_mark] at h
    exact utf8EncodeChar_mark ▸ (isText_utf8EncodeChar _).append h
  · exact withoutMark_eq_self mark ▸ h

namespace Dataset

/-- **A file that is no text is refused, unless it is sewn.**  Fields are decoded after their quotes
are taken off, so a file is refused exactly if it is no text without its seams.  A file that has none
is refused for any byte sequence that is not valid UTF-8, wherever it stands. -/
theorem refused_unless_sewn (name : String) (bytes : List UInt8) (limits : RowLimits) :
    (ofFile name bytes limits = .error .invalidFile ↔
      FileKind.ofName name ≠ .csv ∨ ¬ (withoutSeams bytes).toByteArray.IsValidUTF8) ∧
    (IsEmpty (Seam bytes) → ¬ bytes.toByteArray.IsValidUTF8 →
      ofFile name bytes limits = .error .invalidFile) := by
  have texts := csvRows_texts_iff bytes
  rw [← isText_iff, ← isText_iff]
  have refusal : ofFile name bytes limits = .error .invalidFile ↔
      FileKind.ofName name ≠ .csv ∨ ¬ IsText (withoutSeams bytes) := by
    constructor
    · intro refused
      by_contra readable
      push Not at readable
      obtain ⟨csv, text⟩ := readable
      rcases ofFile_of_texts csv (texts.mpr text) limits with ⟨d, loaded⟩ | many
      · cases refused.symm.trans loaded
      · cases refused.symm.trans many
    · rw [← texts]
      push Not
      exact fun invalid => ofFile_of_invalid invalid limits
  refine ⟨refusal, fun unsewn invalid => refusal.mpr (Or.inr ?_)⟩
  rw [withoutSeams_eq unsewn, isText_withoutMark_iff]
  exact invalid

/-- the first byte of `é` without the second, in a file without quotes -/
theorem refused_unless_sewn_half :
    let half : List UInt8 := [0x61, 0x0A, 0xC3]
    IsEmpty (Seam half) ∧ ¬ half.toByteArray.IsValidUTF8 ∧
      ofFile "a.csv" half {} = .error .invalidFile := by
  intro half
  have open_ended : half.inits.all fun front =>
      (front.foldl Scan.step Scan.start).mode ≠ .quoteSeen := by decide
  have unsewn : IsEmpty (Seam half) := by
    refine ⟨fun ⟨front, next, rest, joined, closed, _⟩ => ?_⟩
    have part : front ∈ half.inits := (List.mem_inits _ _).mpr ⟨next :: rest, joined⟩
    exact of_decide_eq_true (List.all_eq_true.mp open_ended front part) closed
  have invalid : ¬ half.toByteArray.IsValidUTF8 := by decide
  exact ⟨unsewn, invalid, (refused_unless_sewn "a.csv" half {}).2 unsewn invalid⟩

/-- the two bytes of `é`, the first between quotes and the second behind them, are read as `é`; with
nothing behind the quotes the first byte is refused -/
theorem halves_sewn :
    let halves : List UInt8 := [0x61, 0x0A, 0x22, 0xC3, 0x22, 0xA9, 0x0A]
    ¬ halves.toByteArray.IsValidUTF8 ∧
      ofFile "a.csv" halves {} = .ok { table := ⟨["a"], [⟨[("a", "é")]⟩]⟩ } ∧
      ofFile "a.csv" [0x61, 0x0A, 0x22, 0xC3, 0x22, 0x0A] {} = .error .invalidFile := by
  intro halves
  exact ⟨by decide, rfl, rfl⟩

end Dataset

end TableChart
