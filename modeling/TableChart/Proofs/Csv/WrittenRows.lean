import TableChart.Csv.Written
import TableChart.Proofs.Text.Utf8

/-!
# Reading rows that were written

The reader is followed through what is written, a piece at a time.  A piece is read from a state
that stands before a field (`Scan.Fresh`), and `Scan.cells` are the cells of the row so far.

* `foldl_write`           a field is read to its bytes, in either form;
* `foldl_writeRow`        a row is read to its cells;
* `foldl_line`            the first break ends the row, and further breaks are passed over;
* `csvRows_writeRows`     a file of such rows is read to them, with a byte order mark or without.

The one row that gets lost is a single empty field written bare: its line is empty.
-/

namespace TableChart

theorem isBreak_iff (b : UInt8) : isBreak b ↔ b = 0x0D ∨ b = 0x0A := by
  unfold isBreak
  rw [Bool.or_eq_true, beq_iff_eq, beq_iff_eq]
  exact or_comm

theorem doubleQuotes_cons (b : UInt8) (bytes : List UInt8) :
    doubleQuotes (b :: bytes)
      = (if b = quoteByte then [b, b] else [b]) ++ doubleQuotes bytes := List.flatMap_cons

theorem writeRow_cons (form : FieldForm) (bytes : List UInt8)
    (rest : List (FieldForm × List UInt8)) :
    writeRow ((form, bytes) :: rest)
      = form.write bytes ++ if rest = [] then [] else commaByte :: writeRow rest := by
  cases rest with
  | nil => exact (List.append_nil _).symm
  | cons f fs => rfl

/-- a written row that is read back: the fields fit their forms, and are not a single empty one -/
structure LineFits (line : List (FieldForm × List UInt8) × List UInt8) : Prop where
  fields_ne : line.1 ≠ []
  not_blank : line.1.map Prod.snd ≠ [[]]
  fits : ∀ f ∈ line.1, f.1.fits f.2
  breaks : ∀ b ∈ line.2, isBreak b

namespace Scan
variable (s : Scan)

/-- the cells of the row that is being read, with the open one last -/
def cells : List (List UInt8) := (s.field.reverse :: s.row).reverse

/-! ## single bytes -/

theorem bareStep_break {b : UInt8} (h : isBreak b) : s.bareStep b = s.endRow := by
  have hc : b ≠ commaByte := by
    rintro rfl
    exact absurd h (by decide)
  unfold bareStep
  rw [if_neg hc, if_pos h]

theorem bareStep_other {b : UInt8} (hc : b ≠ commaByte) (hb : isBreak b = false) :
    s.bareStep b = s.push .bare b := by
  unfold bareStep
  rw [if_neg hc, hb]
  rfl

/-- outside quotes a comma ends the field -/
theorem step_comma (h : s.mode ≠ .quoted) : s.step commaByte = s.endField := by
  obtain ⟨mode, field, row, rows⟩ := s
  cases mode with
  | quoted => exact absurd rfl h
  | _ => rfl

/-- outside quotes a break ends the row -/
theorem step_break {b : UInt8} (hb : isBreak b) (hq : s.mode ≠ .quoted)
    (hr : s.mode ≠ .rowStart) : s.step b = s.endRow := by
  have hn : b ≠ quoteByte := by
    rintro rfl
    exact absurd hb (by decide)
  obtain ⟨mode, field, row, rows⟩ := s
  cases mode with
  | rowStart => exact absurd rfl hr
  | quoted => exact absurd rfl hq
  | fieldStart =>
    show firstStep _ b = _
    unfold firstStep
    rw [if_neg hn]
    exact bareStep_break _ hb
  | bare => exact bareStep_break _ hb
  | quoteSeen =>
    show (if b = quoteByte then _ else bareStep _ b) = _
    rw [if_neg hn]
    exact bareStep_break _ hb

/-- an empty line is passed over -/
theorem step_break_rowStart {b : UInt8} (hb : isBreak b) (hr : s.mode = .rowStart) :
    s.step b = s := by
  unfold step
  rw [hr]
  exact if_pos hb

theorem foldl_breaks {breaks : List UInt8} (hb : ∀ b ∈ breaks, isBreak b)
    (hr : s.mode = .rowStart) : breaks.foldl step s = s := by
  induction breaks with
  | nil => rfl
  | cons b bs ih =>
    rw [List.foldl_cons, step_break_rowStart s (hb b List.mem_cons_self) hr]
    exact ih fun c hc => hb c (List.mem_cons_of_mem _ hc)

/-! ## fields -/

theorem foldl_bare (bytes : List UInt8) (h : FieldForm.bare.fits bytes) (field : List UInt8)
    (row : List (List UInt8)) (rows : List (List (List UInt8))) :
    bytes.foldl step ⟨.bare, field, row, rows⟩ = ⟨.bare, bytes.reverse ++ field, row, rows⟩ := by
  induction bytes generalizing field with
  | nil => rfl
  | cons b bs ih =>
    obtain ⟨⟨⟨_, hc⟩, hb⟩, hbs⟩ : ((b ≠ quoteByte ∧ b ≠ commaByte) ∧ isBreak b = false) ∧
        FieldForm.bare.fits bs := by simpa [FieldForm.fits] using h
    rw [List.foldl_cons, List.reverse_cons, List.append_assoc]
    show bs.foldl step (bareStep _ b) = _
    rw [bareStep_other _ hc hb]
    exact ih hbs (b :: field)

theorem foldl_quoted (bytes field : List UInt8) (row : List (List UInt8))
    (rows : List (List (List UInt8))) :
    (doubleQuotes bytes).foldl step ⟨.quoted, field, row, rows⟩
      = ⟨.quoted, bytes.reverse ++ field, row, rows⟩ := by
  induction bytes generalizing field with
  | nil => rfl
  | cons b bs ih =>
    have hb : (if b = quoteByte then [b, b] else [b]).foldl step ⟨.quoted, field, row, rows⟩
        = ⟨.quoted, b :: field, row, rows⟩ := by
      by_cases e : b = quoteByte
      · rw [if_pos e, e]
        rfl
      · rw [if_neg e]
        exact if_neg e
    rw [doubleQuotes_cons, List.foldl_append, hb, ih, List.reverse_cons, List.append_assoc]
    rfl

/-- a field is about to begin -/
structure Fresh (s : Scan) : Prop where
  field_eq : s.field = []
  mode_eq : s.mode = .rowStart ∨ s.mode = .fieldStart

/-- the mode tells whether anything was read: at the start of a row, an empty bare field is
nothing -/
theorem foldl_write {s : Scan} (hs : s.Fresh) {form : FieldForm} {bytes : List UInt8}
    (h : form.fits bytes) :
    ∃ mode, (form.write bytes).foldl step s = ⟨mode, bytes.reverse, s.row, s.rows⟩ ∧
      mode ≠ .quoted ∧ (mode = .rowStart → s.mode = .rowStart ∧ bytes = []) := by
  obtain ⟨hf, hm⟩ := hs
  obtain ⟨mode, field, row, rows⟩ := s
  obtain rfl : field = [] := hf
  cases form with
  | bare =>
    cases bytes with
    | nil =>
      refine ⟨mode, rfl, ?_, fun e => ⟨e, rfl⟩⟩
      rcases hm with rfl | rfl <;> simp
    | cons b bs =>
      refine ⟨.bare, ?_, by simp, by simp⟩
      obtain ⟨⟨⟨hq, hc⟩, hb⟩, hbs⟩ : ((b ≠ quoteByte ∧ b ≠ commaByte) ∧ isBreak b = false) ∧
          FieldForm.bare.fits bs := by simpa [FieldForm.fits] using h
      have first : step ⟨mode, [], row, rows⟩ b = ⟨.bare, [b], row, rows⟩ := by
        have he : firstStep ⟨mode, [], row, rows⟩ b = ⟨.bare, [b], row, rows⟩ :=
          (if_neg hq).trans (bareStep_other _ hc hb)
        rcases hm with rfl | rfl
        · show (if isBreak b then _ else firstStep _ b) = _
          rw [hb]
          exact he
        · exact he
      show bs.foldl step (step _ b) = _
      rw [first, foldl_bare bs hbs, List.reverse_cons]
  | quoted =>
    refine ⟨.quoteSeen, ?_, by simp, by simp⟩
    have first : step ⟨mode, [], row, rows⟩ quoteByte = ⟨.quoted, [], row, rows⟩ := by
      rcases hm with rfl | rfl <;> rfl
    show (doubleQuotes bytes ++ [quoteByte]).foldl step (step _ quoteByte) = _
    rw [first, List.foldl_append, foldl_quoted, List.append_nil]
    rfl

/-! ## rows -/

theorem fresh_endField (s : Scan) : s.endField.Fresh := ⟨rfl, Or.inr rfl⟩

theorem foldl_writeRow {s : Scan} (hs : s.Fresh) {fields : List (FieldForm × List UInt8)}
    (hne : fields ≠ []) (h : ∀ f ∈ fields, f.1.fits f.2) :
    ∃ t, (writeRow fields).foldl step s = t ∧ t.cells = s.row.reverse ++ fields.map Prod.snd ∧
      t.rows = s.rows ∧ t.mode ≠ .quoted ∧
      (t.mode = .rowStart → s.mode = .rowStart ∧ fields.map Prod.snd = [[]]) := by
  induction fields generalizing s with
  | nil => exact absurd rfl hne
  | cons f rest ih =>
    obtain ⟨form, bytes⟩ := f
    obtain ⟨mode, hw, hq, hr⟩ := foldl_write hs (h _ List.mem_cons_self)
    cases rest with
    | nil =>
      refine ⟨_, hw, ?_, rfl, hq, fun e => ?_⟩
      · simp [cells]
      · obtain ⟨hm, rfl⟩ := hr e
        exact ⟨hm, rfl⟩
    | cons g rest =>
      have hcomma : (writeRow ((form, bytes) :: g :: rest)).foldl step s
          = (writeRow (g :: rest)).foldl step (endField ⟨mode, bytes.reverse, s.row, s.rows⟩) := by
        show (form.write bytes ++ commaByte :: writeRow (g :: rest)).foldl step s = _
        rw [List.foldl_append, hw, List.foldl_cons, step_comma _ hq]
      obtain ⟨t, ht, hc, hrows, htq, htr⟩ := ih (fresh_endField _) (List.cons_ne_nil _ _)
        fun f hf => h f (List.mem_cons_of_mem _ hf)
      refine ⟨t, hcomma.trans ht, ?_, hrows, htq, fun e => absurd (htr e).1 ?_⟩
      · rw [hc]
        simp [endField]
      · simp [endField]

theorem foldl_line (rows : List (List (List UInt8)))
    {line : List (FieldForm × List UInt8) × List UInt8} (h : LineFits line) :
    ∃ t, (writeRow line.1).foldl step ⟨.rowStart, [], [], rows⟩ = t ∧
      t.endRow.rows = line.1.map Prod.snd :: rows ∧ t.mode ≠ .rowStart ∧
      (line.2 ≠ [] → line.2.foldl step t = ⟨.rowStart, [], [], line.1.map Prod.snd :: rows⟩) := by
  obtain ⟨t, ht, hc, hrows, hq, hr⟩ :=
    foldl_writeRow (s := ⟨.rowStart, [], [], rows⟩) ⟨rfl, Or.inl rfl⟩ h.fields_ne h.fits
  have hmode : t.mode ≠ .rowStart := fun e => h.not_blank (hr e).2
  have hend : t.endRow = ⟨.rowStart, [], [], line.1.map Prod.snd :: rows⟩ := by
    show (⟨.rowStart, [], [], t.cells :: t.rows⟩ : Scan) = _
    rw [hc, hrows]
    rfl
  refine ⟨t, ht, by rw [hend], hmode, fun hne => ?_⟩
  obtain ⟨b, bs, hbs⟩ := List.exists_cons_of_ne_nil hne
  have hb : ∀ c ∈ b :: bs, isBreak c := hbs ▸ h.breaks
  rw [hbs, List.foldl_cons, step_break t (hb b List.mem_cons_self) hq hmode, hend]
  exact foldl_breaks _ (fun c hc => hb c (List.mem_cons_of_mem _ hc)) rfl

/-! ## files -/

/-- the end of the file ends a row that has begun -/
theorem finish_eq {s : Scan} (h : s.mode ≠ .rowStart) : s.finish = s.endRow.rows.reverse := by
  obtain ⟨mode, field, row, rows⟩ := s
  cases mode with
  | rowStart => exact absurd rfl h
  | _ => rfl

/-- only the last line may lack its breaks -/
theorem finish_writeRows (rows : List (List (List UInt8)))
    {lines : List (List (FieldForm × List UInt8) × List UInt8)}
    (h : ∀ line ∈ lines, LineFits line) (hb : ∀ line ∈ lines.dropLast, line.2 ≠ []) :
    ((writeRows lines).foldl step ⟨.rowStart, [], [], rows⟩).finish
      = rows.reverse ++ lines.map fun line => line.1.map Prod.snd := by
  induction lines generalizing rows with
  | nil => exact (List.append_nil _).symm
  | cons line rest ih =>
    obtain ⟨t, ht, hend, hmode, hbreaks⟩ := foldl_line rows (h line List.mem_cons_self)
    have hsplit : (writeRows (line :: rest)).foldl step ⟨.rowStart, [], [], rows⟩
        = (writeRows rest).foldl step (line.2.foldl step t) := by
      show ((writeRow line.1 ++ line.2) ++ writeRows rest).foldl step _ = _
      rw [List.foldl_append, List.foldl_append, ht]
    rw [hsplit]
    by_cases e : line.2 = []
    · have last : rest = [] := by
        cases rest with
        | nil => rfl
        | cons g gs => exact absurd e (hb line List.mem_cons_self)
      subst last
      rw [e]
      show t.finish = _
      rw [finish_eq hmode, hend, List.reverse_cons]
      rfl
    · rw [hbreaks e, ih _ (fun g hg => h g (List.mem_cons_of_mem _ hg)) fun g hg => hb g ?_]
      · simp
      · cases rest with
        | nil => exact absurd hg (by simp)
        | cons k ks => exact List.mem_cons_of_mem _ hg

end Scan

theorem withoutMark_mark (bytes : List UInt8) : withoutMark (byteOrderMark ++ bytes) = bytes := rfl

theorem withoutMark_eq_self {bytes : List UInt8} (h : ¬ byteOrderMark <+: bytes) :
    withoutMark bytes = bytes := by
  unfold withoutMark
  split
  · exact absurd ⟨_, rfl⟩ h
  · rfl

theorem csvRows_writeRows {lines : List (List (FieldForm × List UInt8) × List UInt8)}
    (h : ∀ line ∈ lines, LineFits line) (hb : ∀ line ∈ lines.dropLast, line.2 ≠ [])
    {bytes : List UInt8} (hm : withoutMark bytes = writeRows lines) :
    csvRows bytes = lines.map fun line => line.1.map Prod.snd := by
  unfold csvRows
  rw [hm]
  exact Scan.finish_writeRows [] h hb

end TableChart
