import TableChart.Dataset
import TableChart.Proofs.Csv.Decoded
import TableChart.Proofs.Csv.WrittenRows
import TableChart.Proofs.File.Suffix
import TableChart.Proofs.Table.LastColumn
import Mathlib.Data.List.Forall2

/-!
# Written files are read back

* `WrittenLine`   a row of texts, how each cell is written, and the line breaks that follow;
* `WrittenFile`   a header line and data lines, with a byte order mark or without;
* `reads_back`    the dataset of a written file has the header line for headers, and for every data
                  line the record that lies under them.

A text is written bare only if none of its characters means anything to the reader.  The reader
sees bytes and not characters, but a byte below `0x80` is a character by itself, so nothing in the
bytes of a bare text means anything to it either.
-/

namespace TableChart

/-! ## texts in fields -/

/-- the characters that need quotes -/
def reserved : List Char := ['"', ',', '\r', '\n']

def IsPlain (s : String) : Prop := ∀ c ∈ s.toList, c ∉ reserved

instance (s : String) : Decidable (IsPlain s) := List.decidableBAll _ _

theorem toNat_ne_of_plain {s : String} (h : IsPlain s) {b : UInt8}
    (hb : b ∈ utf8 s) {d : Char} (hd : d ∈ reserved) : b.toNat ≠ d.toNat := by
  intro e
  have ascii : ∀ d ∈ reserved, d.toNat < 0x80 := by simp [reserved]
  obtain ⟨c, hc, hcb⟩ := exists_char_of_mem_utf8 hb (e ▸ ascii d hd)
  have hcd : c = d := Char.toNat_inj.mp (hcb.trans e)
  exact h c hc (hcd ▸ hd)

theorem fits_utf8 {s : String} {form : FieldForm}
    (h : form = .bare → IsPlain s) : form.fits (utf8 s) := by
  cases form with
  | quoted => rfl
  | bare =>
    refine List.all_eq_true.mpr fun b hb => ?_
    have key := fun d => @toNat_ne_of_plain s (h rfl) b hb d
    have hq : b ≠ quoteByte := by
      rintro rfl
      exact key '"' (by decide) rfl
    have hc : b ≠ commaByte := by
      rintro rfl
      exact key ',' (by decide) rfl
    have hb : ¬ isBreak b := by
      rw [isBreak_iff]
      rintro (rfl | rfl)
      · exact key '\r' (by decide) rfl
      · exact key '\n' (by decide) rfl
    simp [hq, hc, hb]

/-! ## lines -/

/-- a row as it is written, with the line breaks after it -/
structure WrittenLine where
  fields : List (FieldForm × String)
  breaks : List UInt8
  fields_ne : fields ≠ [] := by decide
  not_blank : fields.map Prod.snd ≠ [""] := by decide
  bare_plain : ∀ f ∈ fields, f.1 = .bare → IsPlain f.2 := by decide
  breaks_only : ∀ b ∈ breaks, b = 0x0D ∨ b = 0x0A := by simp

namespace WrittenLine

def cells (l : WrittenLine) : List String := l.fields.map Prod.snd

def bytes (l : WrittenLine) : List (FieldForm × List UInt8) × List UInt8 :=
  (l.fields.map fun f => (f.1, utf8 f.2), l.breaks)

theorem bytes_cells (l : WrittenLine) : l.bytes.1.map Prod.snd = l.cells.map utf8 := by
  unfold bytes cells
  rw [List.map_map, List.map_map]
  rfl

theorem lineFits (l : WrittenLine) : LineFits l.bytes where
  fields_ne e := l.fields_ne (List.map_eq_nil_iff.mp e)
  not_blank e := by
    rw [bytes_cells] at e
    exact l.not_blank ((List.map_inj_right fun _ _ => utf8_inj).mp (e.trans (by rfl)))
  fits f hf := by
    obtain ⟨g, hg, rfl⟩ := List.mem_map.mp hf
    exact fits_utf8 (l.bare_plain g hg)
  breaks b hb := (isBreak_iff b).mpr (l.breaks_only b hb)

/-- the file of a line that does not begin with U+FEFF does not begin with a byte order mark -/
theorem not_mark_prefix (l : WrittenLine)
    (h : ∀ s rest, l.fields = (.bare, s) :: rest → s.toList.head? ≠ some '\uFEFF')
    (bytes : List UInt8) : ¬ byteOrderMark <+: writeRow l.bytes.1 ++ bytes := by
  intro hm
  obtain ⟨⟨form, s⟩, rest, hf⟩ := List.exists_cons_of_ne_nil l.fields_ne
  have hb : l.bytes.1 = (form, utf8 s) :: rest.map fun f => (f.1, utf8 f.2) := by
    unfold WrittenLine.bytes
    rw [hf, List.map_cons]
  rw [hb, writeRow_cons, List.append_assoc] at hm
  cases form with
  | quoted => exact absurd (List.cons_prefix_cons.mp hm).1 (by decide)
  | bare =>
    cases hs : s.toList with
    | nil =>
      obtain rfl : s = "" := String.toList_inj.mp hs
      cases rest with
      | nil => exact l.not_blank (by rw [hf]; rfl)
      | cons f fs => exact absurd (List.cons_prefix_cons.mp hm).1 (by decide)
    | cons c cs =>
      have first : utf8 s = String.utf8EncodeChar c ++ cs.flatMap String.utf8EncodeChar := by
        unfold utf8
        rw [hs, List.flatMap_cons]
      have hm : byteOrderMark <+: utf8 s ++ _ := hm
      rw [first, List.append_assoc] at hm
      refine h s rest hf ?_
      rw [hs, eq_mark_of_prefix hm]
      rfl

end WrittenLine

/-! ## files -/

theorem Dataset.ofRows_of_le {limits : RowLimits} {rows : List (List String)}
    (h : rows.length ≤ limits.cap) (headers : List String) :
    ∃ d, ofRows limits (headers :: rows) = .ok d ∧ d.table = Table.ofRows headers rows := by
  have hcap : ¬ limits.cap < rows.length := by omega
  exact ⟨_, if_neg hcap, rfl⟩

/-- only the last line may lack its breaks, and a file without a mark must not seem to have one -/
structure WrittenFile where
  mark : Bool
  header : WrittenLine
  data : List WrittenLine
  lines_end : ∀ l ∈ (header :: data).dropLast, l.breaks ≠ [] := by decide
  no_mark : mark = false →
    ∀ s rest, header.fields = (.bare, s) :: rest → s.toList.head? ≠ some '\uFEFF'

namespace WrittenFile
variable (file : WrittenFile)

def lines : List WrittenLine := file.header :: file.data

def bytes : List UInt8 :=
  (if file.mark then byteOrderMark else []) ++ writeRows (file.lines.map WrittenLine.bytes)

theorem withoutMark_bytes :
    withoutMark file.bytes = writeRows (file.lines.map WrittenLine.bytes) := by
  unfold bytes
  cases hm : file.mark with
  | true => exact withoutMark_mark _
  | false =>
    refine withoutMark_eq_self ?_
    show ¬ byteOrderMark <+: (writeRow file.header.bytes.1 ++ file.header.bytes.2) ++ _
    rw [List.append_assoc]
    exact file.header.not_mark_prefix (file.no_mark hm) _

theorem csvRows_bytes : csvRows file.bytes = file.lines.map fun l => l.cells.map utf8 := by
  rw [csvRows_writeRows ?_ ?_ file.withoutMark_bytes, List.map_map]
  · exact List.map_congr_left fun l _ => l.bytes_cells
  · intro line h
    obtain ⟨l, -, rfl⟩ := List.mem_map.mp h
    exact l.lineFits
  · rw [← List.map_dropLast]
    intro line h
    obtain ⟨l, hl, rfl⟩ := List.mem_map.mp h
    exact file.lines_end l hl

theorem csvCells?_bytes : csvCells? file.bytes = some (file.lines.map WrittenLine.cells) := by
  have kept : (file.lines.map WrittenLine.cells).filter (· ≠ [""])
      = file.lines.map WrittenLine.cells := by
    refine List.filter_eq_self.mpr fun row h => ?_
    obtain ⟨l, -, rfl⟩ := List.mem_map.mp h
    exact decide_eq_true l.not_blank
  have rows : csvRows file.bytes = (file.lines.map WrittenLine.cells).map (List.map utf8) := by
    rw [csvRows_bytes, List.map_map]
    rfl
  rw [csvCells?_eq rows, kept]

/-- **Written files are read back.**  Whatever the forms of the fields, the breaks of the lines and
the limit on warnings, the dataset has the cells that were written, under the headers that were. -/
theorem reads_back {name : String} (hname : EndsInCsv name) {limits : RowLimits}
    (hcap : file.data.length ≤ limits.cap) :
    ∃ d, Dataset.ofFile name file.bytes limits = .ok d ∧ d.table.headers = file.header.cells ∧
      List.Forall₂ (fun l r => Record.LiesUnder file.header.cells l.cells r)
        file.data d.table.records := by
  have hcells : csvCells? file.bytes = some (file.header.cells :: file.data.map WrittenLine.cells) :=
    file.csvCells?_bytes
  have hrows : (file.data.map WrittenLine.cells).length ≤ limits.cap := by
    rw [List.length_map]
    exact hcap
  obtain ⟨d, hd, ht⟩ := Dataset.ofRows_of_le hrows file.header.cells
  refine ⟨d, ?_, ?_, ?_⟩
  · unfold Dataset.ofFile
    rw [if_pos (ofName_eq_csv hname), hcells]
    exact hd
  · rw [ht]
    rfl
  · rw [ht]
    show List.Forall₂ _ _ ((file.data.map WrittenLine.cells).map _)
    rw [List.map_map, List.forall₂_map_right_iff, List.forall₂_same]
    exact fun l _ => Record.liesUnder_ofRow file.header.cells l.cells

end WrittenFile

/-- a header comes twice, a cell needs its quotes, a line is empty, a row ends before the headers
do, and the file ends without a break -/
def intricateFile : WrittenFile where
  mark := false
  header := { fields := [(.bare, "a"), (.quoted, "b"), (.bare, "a")], breaks := [0x0D, 0x0A, 0x0A] }
  data := [
    { fields := [(.quoted, "\",\r\n"), (.bare, ""), (.bare, "é")], breaks := [0x0D] },
    { fields := [(.bare, ""), (.quoted, "z")], breaks := [] }]
  no_mark := by
    rintro - s rest h
    obtain ⟨e, -⟩ := List.cons.inj h
    obtain rfl : "a" = s := congrArg Prod.snd e
    decide

theorem intricateFile_reads_back :
    intricateFile.bytes = utf8 "a,\"b\",a\r\n\n\"\"\",\r\n\",,é\r,\"z\"" ∧
      EndsInCsv "Sales.CSV" ∧ intricateFile.data.length ≤ 2 ∧
      ∃ d, Dataset.ofFile "Sales.CSV" intricateFile.bytes ⟨2, 1⟩ = .ok d ∧
        d.table.headers = ["a", "b", "a"] ∧
        List.Forall₂ (fun l r => Record.LiesUnder ["a", "b", "a"] l.cells r)
          intricateFile.data d.table.records := by
  have hname : EndsInCsv "Sales.CSV" := by decide
  have hcap : intricateFile.data.length ≤ 2 := by decide
  exact ⟨by decide, hname, hcap, intricateFile.reads_back hname hcap⟩

end TableChart
