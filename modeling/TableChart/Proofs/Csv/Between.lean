import TableChart.Proofs.Csv.Texts

/-!
# Between rows

* `length_csvRows_le`         a file has no more rows than bytes;
* `rowsOf_append`             where the reader stands before a row, what follows is read by itself;
* `BetweenRows`               such a place in a file, and not in front of its byte order mark;
* `isBlankLine`               an empty line, or one with an empty quoted field and nothing else;
* `filter_csvRows_blanks`     blank lines put between rows bring blank rows at most.
-/

namespace TableChart

namespace Scan

/-! ## counting -/

section
variable (s : Scan)

theorem length_finish_bounds :
    s.rows.length ≤ s.finish.length ∧ s.finish.length ≤ s.rows.length + 1 := by
  unfold finish
  rw [List.length_reverse]
  split
  · exact ⟨Nat.le_refl _, Nat.le_succ _⟩
  · exact ⟨Nat.le_succ _, Nat.le_refl _⟩

/-- a byte begins one row at most -/
theorem length_finish_step (b : UInt8) : (s.step b).finish.length ≤ s.finish.length + 1 := by
  have before := s.length_finish_bounds
  have after := (s.step b).length_finish_bounds
  rcases s.step_cases b with ⟨mode, e⟩ | ⟨mode, e⟩ | e | e <;> rw [e] at after ⊢
  · have same : ({ s with mode } : Scan).rows.length = s.rows.length := rfl
    omega
  · have same : (s.push mode b).rows.length = s.rows.length := rfl
    omega
  · have same : s.endField.rows.length = s.rows.length := rfl
    omega
  · have ended : s.endRow.finish.length = s.rows.length + 1 := List.length_reverse
    omega

theorem length_finish_foldl (bytes : List UInt8) :
    (bytes.foldl step s).finish.length ≤ s.finish.length + bytes.length := by
  induction bytes generalizing s with
  | nil => exact Nat.le_refl _
  | cons b bs ih =>
    have first := s.length_finish_step b
    have rest := ih (s.step b)
    rw [List.foldl_cons, List.length_cons]
    omega

/-! ## rows that were read before -/

def behind (old : List (List (List UInt8))) : Scan := { s with rows := s.rows ++ old }

theorem bareStep_behind (old : List (List (List UInt8))) (b : UInt8) :
    (s.behind old).bareStep b = (s.bareStep b).behind old := by
  unfold bareStep
  split
  · rfl
  · split <;> rfl

theorem firstStep_behind (old : List (List (List UInt8))) (b : UInt8) :
    (s.behind old).firstStep b = (s.firstStep b).behind old := by
  unfold firstStep
  split
  · rfl
  · exact s.bareStep_behind old b

theorem step_behind (old : List (List (List UInt8))) (b : UInt8) :
    (s.behind old).step b = (s.step b).behind old := by
  obtain ⟨mode, field, row, rows⟩ := s
  cases mode with
  | rowStart =>
    show (if isBreak b then _ else firstStep (behind _ old) b)
      = behind (if isBreak b then _ else firstStep _ b) old
    split
    · rfl
    · exact firstStep_behind _ old b
  | fieldStart => exact firstStep_behind _ old b
  | bare => exact bareStep_behind _ old b
  | quoted =>
    show (if b = quoteByte then _ else _) = behind (if b = quoteByte then _ else _) old
    split <;> rfl
  | quoteSeen =>
    show (if b = quoteByte then _ else bareStep (behind _ old) b)
      = behind (if b = quoteByte then _ else bareStep _ b) old
    split
    · rfl
    · exact bareStep_behind _ old b

theorem foldl_behind (old : List (List (List UInt8))) (bytes : List UInt8) :
    bytes.foldl step (s.behind old) = (bytes.foldl step s).behind old := by
  induction bytes generalizing s with
  | nil => rfl
  | cons b bs ih => rw [List.foldl_cons, step_behind, ih, List.foldl_cons]

theorem finish_behind (old : List (List (List UInt8))) :
    (s.behind old).finish = old.reverse ++ s.finish := by
  by_cases h : s.mode = .rowStart
  · obtain ⟨mode, field, row, rows⟩ := s
    obtain rfl : mode = .rowStart := h
    exact List.reverse_append
  · have ended : (s.behind old).endRow.rows = s.endRow.rows ++ old := rfl
    have begun : (s.behind old).mode ≠ .rowStart := h
    rw [finish_eq h, finish_eq begun, ended, List.reverse_append]

end

/-! ## the start of a row -/

/-- where the reader stands before a row, no field of a row is left over -/
def Clean (s : Scan) : Prop := s.mode = .rowStart → s.field = [] ∧ s.row = []

theorem clean_bareStep (s : Scan) (b : UInt8) : (s.bareStep b).Clean := by
  rcases s.bareStep_cases b with e | e | e <;> rw [e]
  · exact nofun
  · exact nofun
  · exact fun _ => ⟨rfl, rfl⟩

theorem clean_firstStep (s : Scan) (b : UInt8) : (s.firstStep b).Clean := by
  unfold firstStep
  split
  · exact nofun
  · exact s.clean_bareStep b

theorem Clean.step {s : Scan} (h : s.Clean) (b : UInt8) : (s.step b).Clean := by
  unfold Scan.step
  split
  · split
    · exact h
    · exact s.clean_firstStep b
  · exact s.clean_firstStep b
  · exact s.clean_bareStep b
  · split <;> exact nofun
  · split
    · exact nofun
    · exact s.clean_bareStep b

theorem Clean.foldl {s : Scan} (h : s.Clean) (bytes : List UInt8) :
    (bytes.foldl Scan.step s).Clean := by
  induction bytes generalizing s with
  | nil => exact h
  | cons b bs ih => exact ih (h.step b)

theorem Clean.eq_behind {s : Scan} (h : s.Clean) (hm : s.mode = .rowStart) :
    s = start.behind s.rows := by
  obtain ⟨mode, field, row, rows⟩ := s
  obtain rfl : mode = .rowStart := hm
  obtain ⟨rfl, rfl⟩ := h rfl
  rfl

end Scan

/-- the reader stands before a row after these bytes, if it did before them -/
def EndsRow (bytes : List UInt8) : Prop := (bytes.foldl Scan.step Scan.start).mode = .rowStart

instance (bytes : List UInt8) : Decidable (EndsRow bytes) :=
  inferInstanceAs (Decidable ((bytes.foldl Scan.step Scan.start).mode = .rowStart))

/-- the rows of bytes without a byte order mark -/
def rowsOf (bytes : List UInt8) : List (List (List UInt8)) :=
  (bytes.foldl Scan.step Scan.start).finish

theorem foldl_of_endsRow {bytes : List UInt8} (h : EndsRow bytes) :
    ∃ rows, bytes.foldl Scan.step Scan.start = Scan.start.behind rows :=
  have clean : Scan.start.Clean := fun _ => ⟨rfl, rfl⟩
  ⟨_, (clean.foldl bytes).eq_behind h⟩

theorem rowsOf_append {bytes : List UInt8} (h : EndsRow bytes) (rest : List UInt8) :
    rowsOf (bytes ++ rest) = rowsOf bytes ++ rowsOf rest := by
  obtain ⟨rows, e⟩ := foldl_of_endsRow h
  unfold rowsOf
  rw [List.foldl_append, e, Scan.foldl_behind, Scan.finish_behind, Scan.finish_behind]
  rw [show Scan.start.finish = [] from rfl, List.append_nil]

theorem EndsRow.append {bytes rest : List UInt8} (h : EndsRow bytes) (h' : EndsRow rest) :
    EndsRow (bytes ++ rest) := by
  obtain ⟨rows, e⟩ := foldl_of_endsRow h
  unfold EndsRow
  rw [List.foldl_append, e, Scan.foldl_behind]
  exact h'

/-! ## blank lines -/

def isBlankLine : List UInt8 → Bool
  | [b] => isBreak b
  | [q, r, b] => q = quoteByte && r = quoteByte && isBreak b
  | _ => false

theorem isBlankLine_cases {line : List UInt8} (h : isBlankLine line) :
    ∃ b, isBreak b ∧ (line = [b] ∨ line = [quoteByte, quoteByte, b]) := by
  unfold isBlankLine at h
  split at h
  · exact ⟨_, h, Or.inl rfl⟩
  · rw [Bool.and_eq_true, Bool.and_eq_true, decide_eq_true_eq, decide_eq_true_eq] at h
    obtain ⟨⟨rfl, rfl⟩, hb⟩ := h
    exact ⟨_, hb, Or.inr rfl⟩
  · cases h

/-- a line is passed over, or read as a row of a single empty field -/
theorem blank_read {line : List UInt8} (h : isBlankLine line) :
    EndsRow line ∧ ∀ row ∈ rowsOf line, row = [[]] := by
  obtain ⟨b, hb, rfl | rfl⟩ := isBlankLine_cases h
  · have passed : [b].foldl Scan.step Scan.start = Scan.start :=
      Scan.step_break_rowStart Scan.start hb rfl
    unfold EndsRow rowsOf
    rw [passed]
    exact ⟨rfl, List.forall_mem_nil _⟩
  · have read : [quoteByte, quoteByte, b].foldl Scan.step Scan.start = Scan.start.behind [[[]]] :=
      Scan.step_break ⟨.quoteSeen, [], [], []⟩ hb nofun nofun
    unfold EndsRow rowsOf
    rw [read]
    exact ⟨rfl, fun row hrow => List.mem_singleton.mp hrow⟩

theorem blanks_read {lines : List (List UInt8)} (h : ∀ line ∈ lines, isBlankLine line) :
    EndsRow lines.flatten ∧ ∀ row ∈ rowsOf lines.flatten, row = [[]] := by
  induction lines with
  | nil => exact ⟨rfl, List.forall_mem_nil _⟩
  | cons line lines ih =>
    obtain ⟨ends, blank⟩ := blank_read (h line List.mem_cons_self)
    obtain ⟨laterEnds, laterBlank⟩ := ih fun l hl => h l (List.mem_cons_of_mem _ hl)
    rw [List.flatten_cons]
    refine ⟨ends.append laterEnds, fun row hrow => ?_⟩
    rw [rowsOf_append ends, List.mem_append] at hrow
    exact hrow.elim (blank row) (laterBlank row)

/-! ## files -/

theorem csvRows_eq (bytes : List UInt8) : csvRows bytes = rowsOf (withoutMark bytes) := rfl

theorem length_withoutMark_le (bytes : List UInt8) : (withoutMark bytes).length ≤ bytes.length := by
  unfold withoutMark
  split
  · exact Nat.le_add_right _ 3
  · exact Nat.le_refl _

theorem length_csvRows_le (bytes : List UInt8) : (csvRows bytes).length ≤ bytes.length := by
  have rows := Scan.start.length_finish_foldl (withoutMark bytes)
  have none : Scan.start.finish.length = 0 := rfl
  have mark := length_withoutMark_le bytes
  rw [csvRows_eq, rowsOf]
  omega

/-- a row ends before this place, or the file begins here; a byte order mark does not follow -/
structure BetweenRows (front rest : List UInt8) : Prop where
  endsRow : EndsRow (withoutMark front)
  mark : front = [] → ¬ byteOrderMark <+: rest

/-- what ends a row is no part of a byte order mark -/
theorem BetweenRows.withoutMark_append {front rest : List UInt8} (h : BetweenRows front rest) :
    withoutMark (front ++ rest) = withoutMark front ++ rest := by
  by_cases whole : byteOrderMark <+: front
  · obtain ⟨tail, rfl⟩ := whole
    rw [List.append_assoc, withoutMark_mark, withoutMark_mark]
  · have kept : withoutMark front = front := withoutMark_eq_self whole
    have ends : EndsRow front := kept ▸ h.endsRow
    rw [kept]
    refine withoutMark_eq_self fun mark => ?_
    have part : front <+: byteOrderMark :=
      (List.prefix_or_prefix_of_prefix mark (List.prefix_append front rest)).resolve_left whole
    have short : front.length ≤ 3 := part.length_le
    have cut := List.prefix_iff_eq_take.mp part
    obtain n | n | n | n : front.length = 0 ∨ front.length = 1 ∨ front.length = 2 ∨
        front.length = 3 := by omega
    all_goals rw [n] at cut
    · rw [cut] at mark
      exact h.mark cut mark
    · exact absurd (cut ▸ ends) (by decide)
    · exact absurd (cut ▸ ends) (by decide)
    · exact whole (cut ▸ List.prefix_rfl)

/-- blank lines begin with no byte order mark, so the place behind them is like the one before -/
theorem BetweenRows.blanks {front rest : List UInt8} (h : BetweenRows front rest)
    {lines : List (List UInt8)} (blank : ∀ line ∈ lines, isBlankLine line) :
    BetweenRows front (lines.flatten ++ rest) where
  endsRow := h.endsRow
  mark first := by
    cases lines with
    | nil => exact h.mark first
    | cons line lines =>
      intro mark
      rw [List.flatten_cons] at mark
      obtain ⟨b, hb, rfl | rfl⟩ := isBlankLine_cases (blank line List.mem_cons_self)
      · obtain ⟨rfl, -⟩ := List.cons_prefix_cons.mp mark
        exact absurd hb (by decide)
      · exact absurd (List.cons_prefix_cons.mp mark).1 (by decide)

theorem filter_csvRows_blanks {front rest : List UInt8} (h : BetweenRows front rest)
    {lines : List (List UInt8)} (blank : ∀ line ∈ lines, isBlankLine line) :
    (csvRows (front ++ (lines.flatten ++ rest))).filter (· ≠ [[]])
      = (csvRows (front ++ rest)).filter (· ≠ [[]]) := by
  obtain ⟨ends, rows⟩ := blanks_read blank
  have none : (rowsOf lines.flatten).filter (· ≠ [[]]) = [] :=
    List.filter_eq_nil_iff.mpr fun row hrow => by simpa using rows row hrow
  rw [csvRows_eq, csvRows_eq, (h.blanks blank).withoutMark_append, h.withoutMark_append,
    rowsOf_append h.endsRow, rowsOf_append h.endsRow, rowsOf_append ends, List.filter_append,
    List.filter_append, List.filter_append, none, List.nil_append]

end TableChart
