import TableChart.Csv.Plain
import TableChart.Dataset
import TableChart.Proofs.Csv.Between
import TableChart.Proofs.Text.Run

/-!
# Files without quotes

Where no quote stands, the reader does no more than cut: at line breaks, and then at commas.

* `Scan.foldl_commas`          a line is read to the cells between its commas;
* `rowsOf_append_break`        a break parts what is read into what stands before and what behind it;
* `csvRows_eq_plainRows`       so a file without quotes has just the rows of its non-empty lines;
* `Dataset.cut_without_quotes` what is read of such a file, and why the kind and the number of line
                               breaks make no difference.
-/

namespace TableChart

/-! ## cutting -/

theorem comma_induction {P : List UInt8 → Prop} (last : ∀ piece, commaByte ∉ piece → P piece)
    (cut : ∀ piece rest, commaByte ∉ piece → P rest → P (piece ++ commaByte :: rest))
    (line : List UInt8) : P line := by
  have other {piece : List UInt8} (h : ∀ b ∈ piece, ¬ b = commaByte) : commaByte ∉ piece :=
    fun mem => h commaByte mem rfl
  refine Text.cut_induction (p := (· = commaByte)) (fun piece h => last piece (other h)) ?_ line
  rintro piece _ rest h rfl hrest
  exact cut piece rest (other h) hrest

theorem splitOn_eq_singleton_nil_iff {line : List UInt8} :
    line.splitOn commaByte = [[]] ↔ line = [] := by
  constructor
  · intro h
    have joined : [commaByte].intercalate (line.splitOn commaByte) = line :=
      List.intercalate_splitOn commaByte
    rw [h] at joined
    exact joined.symm
  · rintro rfl
    exact List.splitOn_nil commaByte

theorem length_splitOn (line : List UInt8) :
    (line.splitOn commaByte).length = line.count commaByte + 1 := by
  induction line using comma_induction with
  | last piece none =>
    rw [List.splitOn_eq_singleton none, List.count_eq_zero_of_not_mem none]
    rfl
  | cut piece rest none ih =>
    rw [List.splitOn_append_cons_self_of_not_mem none, List.length_cons, ih, List.count_append,
      List.count_eq_zero_of_not_mem none, List.count_cons_self, Nat.zero_add]

/-- a text is cut into texts, and nothing else is -/
theorem isText_splitOn_iff (line : List UInt8) :
    (∀ field ∈ line.splitOn commaByte, IsText field) ↔ IsText line := by
  induction line using comma_induction with
  | last piece none => rw [List.splitOn_eq_singleton none, List.forall_mem_singleton]
  | cut piece rest none ih =>
    rw [List.splitOn_append_cons_self_of_not_mem none, List.forall_mem_cons, ih,
      isText_append_iff (by decide)]

theorem plainRows_append_break {b : UInt8} (hb : isBreak b) (front back : List UInt8) :
    plainRows (front ++ b :: back) = plainRows front ++ plainRows back := by
  unfold plainRows
  rw [List.splitOnP_append_cons front back hb, List.filter_append, List.map_append]

theorem plainRows_breaks {breaks : List UInt8} (h : ∀ b ∈ breaks, isBreak b) (back : List UInt8) :
    plainRows (breaks ++ back) = plainRows back := by
  induction breaks with
  | nil => rfl
  | cons b bs ih =>
    have rest := ih fun c hc => h c (List.mem_cons_of_mem b hc)
    exact (plainRows_append_break (h b List.mem_cons_self) [] (bs ++ back)).trans rest

theorem plainRows_line {line : List UInt8} (breaks : ∀ b ∈ line, ¬ isBreak b) :
    plainRows line = if line = [] then [] else [line.splitOn commaByte] := by
  unfold plainRows
  rw [List.splitOnP_eq_singleton fun b hb => Bool.eq_false_iff.mpr (breaks b hb)]
  by_cases none : line = []
  · rw [if_pos none, none]
    rfl
  · have kept : [line].filter (· ≠ []) = [line] := List.filter_cons_of_pos (decide_eq_true none)
    rw [if_neg none, kept]
    rfl

/-! ## reading -/

namespace Scan

/-- a line is read to the cells between its commas -/
theorem foldl_commas {s : Scan} (hs : s.Fresh) {line : List UInt8} (quotes : quoteByte ∉ line)
    (breaks : ∀ b ∈ line, ¬ isBreak b) :
    ∃ t, line.foldl step s = t ∧ t.cells = s.row.reverse ++ line.splitOn commaByte ∧
      t.rows = s.rows ∧ (t.mode = .rowStart → s.mode = .rowStart ∧ line = []) := by
  have bare {piece : List UInt8} (none : commaByte ∉ piece) (quotes : quoteByte ∉ piece)
      (breaks : ∀ b ∈ piece, ¬ isBreak b) : FieldForm.bare.fits piece := by
    refine List.all_eq_true.mpr fun b hb => ?_
    have quote : b ≠ quoteByte := fun e => quotes (e ▸ hb)
    have comma : b ≠ commaByte := fun e => none (e ▸ hb)
    simp [quote, comma, breaks b hb]
  induction line using comma_induction generalizing s with
  | last piece none =>
    obtain ⟨mode, read, -, start⟩ := foldl_write hs (bare none quotes breaks)
    refine ⟨_, read, ?_, rfl, start⟩
    rw [List.splitOn_eq_singleton none]
    simp [cells]
  | cut piece rest none ih =>
    obtain ⟨quotes, laterQuotes⟩ := not_or.mp (mt List.mem_append.mpr quotes)
    obtain ⟨breaks, laterBreaks⟩ := List.forall_mem_append.mp breaks
    obtain ⟨mode, read, quoted, -⟩ := foldl_write hs (bare none quotes breaks)
    obtain ⟨t, later, cells, rows, start⟩ := ih (fresh_endField ⟨mode, piece.reverse, s.row, s.rows⟩)
      (mt (List.mem_cons_of_mem _) laterQuotes) fun b hb => laterBreaks b (List.mem_cons_of_mem _ hb)
    refine ⟨t, ?_, ?_, rows, fun before => by cases (start before).1⟩
    · have read : piece.foldl step s = ⟨mode, piece.reverse, s.row, s.rows⟩ := read
      rw [List.foldl_append, read, List.foldl_cons, step_comma _ quoted, later]
    · rw [cells, List.splitOn_append_cons_self_of_not_mem none]
      simp [endField]

/-- without a quote no quoted field is opened -/
theorem not_quoted_step {s : Scan} (h : s.mode ≠ .quoted) {b : UInt8} (hb : b ≠ quoteByte) :
    (s.step b).mode ≠ .quoted := by
  have bare (t : Scan) : (t.bareStep b).mode ≠ .quoted := by
    rcases t.bareStep_cases b with e | e | e <;> rw [e] <;> exact nofun
  have first (t : Scan) : t.firstStep b = t.bareStep b := if_neg hb
  unfold step
  rw [first, if_neg hb, if_neg hb]
  split
  · split
    · exact h
    · exact bare s
  · exact bare s
  · exact bare s
  · rename_i quoted
    exact absurd quoted h
  · exact bare s

theorem not_quoted_foldl {s : Scan} (h : s.mode ≠ .quoted) {bytes : List UInt8}
    (quotes : quoteByte ∉ bytes) : (bytes.foldl step s).mode ≠ .quoted := by
  induction bytes generalizing s with
  | nil => exact h
  | cons b bs ih =>
    obtain ⟨quote, later⟩ := not_or.mp (mt List.mem_cons.mpr quotes)
    exact ih (not_quoted_step h (Ne.symm quote)) later

/-- outside quotes a break does what the end of the file does -/
theorem finish_step_break {s : Scan} (h : s.mode ≠ .quoted) {b : UInt8} (hb : isBreak b) :
    (s.step b).mode = .rowStart ∧ (s.step b).finish = s.finish := by
  by_cases before : s.mode = .rowStart
  · rw [step_break_rowStart s hb before]
    exact ⟨before, rfl⟩
  · rw [step_break s hb h before, finish_eq before]
    exact ⟨rfl, rfl⟩

end Scan

theorem rowsOf_append_break {front : List UInt8} (quotes : quoteByte ∉ front) {b : UInt8}
    (hb : isBreak b) (back : List UInt8) :
    rowsOf (front ++ b :: back) = rowsOf front ++ rowsOf back := by
  have first : Scan.start.mode ≠ .quoted := nofun
  have outside := Scan.not_quoted_foldl first quotes
  obtain ⟨start, same⟩ := Scan.finish_step_break outside hb
  have step : (front ++ [b]).foldl Scan.step Scan.start
      = (front.foldl Scan.step Scan.start).step b := List.foldl_append
  have ends : EndsRow (front ++ [b]) := by
    unfold EndsRow
    rw [step]
    exact start
  have rows : rowsOf (front ++ [b]) = rowsOf front := by
    unfold rowsOf
    rw [step]
    exact same
  rw [List.append_cons, rowsOf_append ends, rows]

theorem rowsOf_line {line : List UInt8} (quotes : quoteByte ∉ line)
    (breaks : ∀ b ∈ line, ¬ isBreak b) :
    rowsOf line = if line = [] then [] else [line.splitOn commaByte] := by
  have fresh : Scan.start.Fresh := ⟨rfl, Or.inl rfl⟩
  obtain ⟨t, read, cells, rows, start⟩ := Scan.foldl_commas fresh quotes breaks
  by_cases none : line = []
  · rw [if_pos none, none]
    rfl
  · have begun : t.mode ≠ .rowStart := fun before => none (start before).2
    have row : t.cells :: t.rows = [line.splitOn commaByte] := by
      rw [cells, rows]
      rfl
    have ended : t.endRow.rows = t.cells :: t.rows := rfl
    rw [if_neg none, rowsOf, read, Scan.finish_eq begun, ended, row]
    rfl

theorem rowsOf_eq_plainRows {bytes : List UInt8} (quotes : quoteByte ∉ bytes) :
    rowsOf bytes = plainRows bytes := by
  induction bytes using Text.cut_induction (p := (isBreak ·)) with
  | last line breaks => rw [rowsOf_line quotes breaks, plainRows_line breaks]
  | cut line b rest breaks hb ih =>
    obtain ⟨front, back⟩ := not_or.mp (mt List.mem_append.mpr quotes)
    rw [rowsOf_append_break front hb, plainRows_append_break hb, rowsOf_line front breaks,
      plainRows_line breaks, ih (mt (List.mem_cons_of_mem _) back)]

/-! ## files -/

theorem not_mem_withoutMark {bytes : List UInt8} {b : UInt8} (h : b ∉ bytes) :
    b ∉ withoutMark bytes := by
  by_cases mark : byteOrderMark <+: bytes
  · obtain ⟨rest, rfl⟩ := mark
    exact fun mem => h (List.mem_append_right byteOrderMark mem)
  · rwa [withoutMark_eq_self mark]

theorem csvRows_eq_plainRows {bytes : List UInt8} (quotes : quoteByte ∉ bytes) :
    csvRows bytes = plainRows (withoutMark bytes) :=
  rowsOf_eq_plainRows (not_mem_withoutMark quotes)

/-- a break is no part of a byte order mark -/
theorem withoutMark_append_break {b : UInt8} (hb : isBreak b) (front back : List UInt8) :
    withoutMark (front ++ b :: back) = withoutMark front ++ b :: back := by
  by_cases mark : byteOrderMark <+: front
  · obtain ⟨rest, rfl⟩ := mark
    rw [List.append_assoc, withoutMark_mark, withoutMark_mark]
  · rw [withoutMark_eq_self mark]
    refine withoutMark_eq_self fun whole => ?_
    have noBreak : ∀ c ∈ byteOrderMark, ¬ isBreak c := by decide +kernel
    rw [List.append_cons] at whole
    rcases List.prefix_or_prefix_of_prefix whole (List.prefix_append (front ++ [b]) back) with h | h
    · rcases List.prefix_concat_iff.mp h with e | h
      · exact noBreak b (e ▸ List.mem_append_right front List.mem_cons_self) hb
      · exact mark h
    · exact noBreak b (h.subset (List.mem_append_right front List.mem_cons_self)) hb

/-- other breaks in the place of one do not change the rows -/
theorem csvRows_of_breaks {front back : List UInt8} {b : UInt8} (hb : isBreak b)
    (quotes : quoteByte ∉ front ++ b :: back) {breaks : List UInt8} (some : breaks ≠ [])
    (h : ∀ c ∈ breaks, isBreak c) :
    csvRows (front ++ (breaks ++ back)) = csvRows (front ++ b :: back) := by
  obtain ⟨c, cs, rfl⟩ := List.exists_cons_of_ne_nil some
  obtain ⟨hc, hcs⟩ := List.forall_mem_cons.mp h
  have noQuote : ¬ isBreak quoteByte := by decide
  have quotes' : quoteByte ∉ front ++ c :: (cs ++ back) := by
    obtain ⟨inFront, inBack⟩ := not_or.mp (mt List.mem_append.mpr quotes)
    have inBack := mt (List.mem_cons_of_mem b) inBack
    simp only [List.mem_append, List.mem_cons, not_or]
    exact ⟨inFront, fun e => noQuote (e ▸ hc), fun mem => noQuote (hcs _ mem), inBack⟩
  show csvRows (front ++ c :: (cs ++ back)) = _
  rw [csvRows_eq_plainRows quotes', csvRows_eq_plainRows quotes, withoutMark_append_break hc,
    withoutMark_append_break hb, plainRows_append_break hc, plainRows_append_break hb,
    plainRows_breaks hcs]

namespace Dataset

theorem filter_plainRows (bytes : List UInt8) :
    (plainRows bytes).filter (· ≠ [[]]) = plainRows bytes := by
  refine List.filter_eq_self.mpr fun row hrow => decide_eq_true ?_
  obtain ⟨line, hline, rfl⟩ := List.mem_map.mp hrow
  exact mt splitOn_eq_singleton_nil_iff.mp (of_decide_eq_true (List.mem_filter.mp hline).2)

theorem exists_undecodable_iff (bytes : List UInt8) :
    (∃ row ∈ plainRows bytes, ∃ field ∈ row, ¬ IsText field) ↔
      ∃ line ∈ bytes.splitOnP isBreak, ¬ IsText line := by
  constructor
  · rintro ⟨row, hrow, invalid⟩
    obtain ⟨line, hline, rfl⟩ := List.mem_map.mp hrow
    refine ⟨line, (List.mem_filter.mp hline).1, fun text => ?_⟩
    obtain ⟨field, hfield, noText⟩ := invalid
    exact noText ((isText_splitOn_iff line).mpr text field hfield)
  · rintro ⟨line, hline, noText⟩
    have some : line ≠ [] := fun none => noText (none ▸ isText_nil)
    refine ⟨line.splitOn commaByte, List.mem_map_of_mem (List.mem_filter.mpr ⟨hline, ?_⟩), ?_⟩
    · exact decide_eq_true some
    · by_contra texts
      push Not at texts
      exact noText ((isText_splitOn_iff line).mp texts)

/-- **A file without quotes is cut, and nothing else.**  Its rows are its non-empty lines, cut at every
comma, and it is refused for its bytes exactly if one of its lines is no text.  So any line break may
be exchanged for others, of either kind and as many as one likes. -/
theorem cut_without_quotes {bytes : List UInt8} (quotes : quoteByte ∉ bytes) :
    (csvCells? bytes = none ↔
      ∃ line ∈ (withoutMark bytes).splitOnP isBreak, ¬ line.toByteArray.IsValidUTF8) ∧
    (∀ cells, csvCells? bytes = some cells ↔
      cells.map (List.map utf8) =
        (((withoutMark bytes).splitOnP isBreak).filter (· ≠ [])).map (List.splitOn commaByte)) ∧
    (∀ line : List UInt8, (line.splitOn commaByte).length = line.count commaByte + 1 ∧
      [commaByte].intercalate (line.splitOn commaByte) = line) ∧
    ∀ front b back, bytes = front ++ b :: back → isBreak b →
      ∀ breaks : List UInt8, breaks ≠ [] → (∀ c ∈ breaks, isBreak c) → ∀ name limits,
        ofFile name (front ++ (breaks ++ back)) limits = ofFile name bytes limits := by
  refine ⟨?_, fun cells => ?_, fun line => ⟨length_splitOn line, List.intercalate_splitOn _⟩, ?_⟩
  · simp only [← isText_iff]
    rw [csvCells?_eq_none_iff, csvRows_eq_plainRows quotes, exists_undecodable_iff]
  · rw [csvCells?_eq_some_iff, csvRows_eq_plainRows quotes, filter_plainRows]
    rfl
  · rintro front b back rfl hb breaks some h name limits
    have cells := csvCells?_congr (congrArg _ (csvRows_of_breaks hb quotes some h))
    unfold ofFile
    rw [cells]

/-- a mark, breaks of both kinds, a row of empty cells and a comma at the end; and a line that is half
a character -/
theorem cut_without_quotes_marked :
    let bytes := byteOrderMark ++ utf8 "a,é\r,\n\n1,,"
    let half : List UInt8 := [0x61, 0x0D, 0x2C, 0xC3]
    quoteByte ∉ bytes ∧ csvCells? bytes = some [["a", "é"], ["", ""], ["1", "", ""]] ∧
      ofFile "t.csv" (byteOrderMark ++ utf8 "a,é\n\r\n,\n\n1,,") {} = ofFile "t.csv" bytes {} ∧
      quoteByte ∉ half ∧ csvCells? half = none := by
  intro bytes half
  have quotes : quoteByte ∉ bytes := by decide
  have quotes' : quoteByte ∉ half := by decide
  obtain ⟨-, rows, -, breaks⟩ := cut_without_quotes quotes
  obtain ⟨undecodable, -⟩ := cut_without_quotes quotes'
  refine ⟨quotes, (rows _).mpr (by decide), ?_, quotes', undecodable.mpr ?_⟩
  · exact breaks (byteOrderMark ++ utf8 "a,é") 0x0D (utf8 ",\n\n1,,") (by decide) (by decide)
      [0x0A, 0x0D, 0x0A] (by decide) (List.all_eq_true.mp rfl) "t.csv" {}
  · exact ⟨[0x2C, 0xC3], by decide, by decide⟩

end Dataset

end TableChart
