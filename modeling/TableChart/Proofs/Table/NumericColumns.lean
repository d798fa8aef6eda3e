import Mathlib.Data.List.Perm.Basic
import TableChart.NumericColumns
import TableChart.Proofs.Table.Records

/-!
# Numeric columns of a file

The records of a file are searched by name.  What counts is a column of its rows all the same: the
one at the last place of the name, cells that a short row does not have left aside.

* `ColumnOfNumbers`        numbers and empty cells, and at least one number;
* `isNumericColumn_ofRows` a header is numeric if the column at its last place is one of numbers;
* `numericColumns_perm`    the order of the rows does not matter;
* `Dataset.numeric_by_columns`   which headers of a file are numeric.
-/

namespace TableChart

/-- the cells at place `j` are numbers but the empty ones, and one is a number -/
structure ColumnOfNumbers (rows : List (List String)) (j : Nat) : Prop where
  cells : ∀ row ∈ rows, ∀ cell, row[j]? = some cell → cell = "" ∨ isNumber cell
  number : ∃ row ∈ rows, ∃ cell, row[j]? = some cell ∧ isNumber cell

theorem not_isNumber_empty : ¬ isNumber "" := by decide

section
variable {headers : List String} {rows rows' : List (List String)} {column : String} {j : Nat}

/-- an absent cell is as good as an empty one -/
theorem cell_iff {row : List String} {P : String → Prop} (empty : P "") :
    (∀ cell, row[j]? = some cell → P cell) ↔ P (row.getD j "") := by
  rw [List.getD_eq_getElem?_getD]
  cases row[j]? with
  | none => exact ⟨fun _ => empty, fun _ => nofun⟩
  | some cell => exact ⟨fun h => h cell rfl, fun h _ e => Option.some.inj e ▸ h⟩

theorem number_iff {row : List String} :
    (∃ cell, row[j]? = some cell ∧ isNumber cell) ↔ isNumber (row.getD j "") := by
  have absent : (∀ cell, row[j]? = some cell → ¬ isNumber cell) ↔ ¬ isNumber (row.getD j "") :=
    cell_iff (P := fun cell => ¬ isNumber cell) not_isNumber_empty
  rw [← not_iff_not, ← absent]
  push Not
  rfl

theorem columnOfNumbers_iff : ColumnOfNumbers rows j ↔
    (∃ row ∈ rows, row.getD j "" ≠ "") ∧
      ∀ row ∈ rows, row.getD j "" = "" ∨ isNumber (row.getD j "") := by
  have filled {cell : String} (h : isNumber cell) : cell ≠ "" := by
    rintro rfl
    exact not_isNumber_empty h
  constructor
  · rintro ⟨cells, row, hrow, number⟩
    exact ⟨⟨row, hrow, filled (number_iff.mp number)⟩,
      fun r hr => (cell_iff (Or.inl rfl)).mp (cells r hr)⟩
  · rintro ⟨⟨row, hrow, some⟩, cells⟩
    exact ⟨fun r hr => (cell_iff (Or.inl rfl)).mpr (cells r hr), row, hrow,
      number_iff.mpr ((cells row hrow).resolve_left some)⟩

theorem cellOrEmpty_ofRow (last : LastAt headers column j) (row : List String) :
    (Record.ofRow headers row).cellOrEmpty column = row.getD j "" := by
  rw [Record.cellOrEmpty, Record.cell?_ofRow last, Option.getD_some]

theorem isNumericColumn_ofRows (last : LastAt headers column j) :
    isNumericColumn (rows.map (Record.ofRow headers)) column ↔ ColumnOfNumbers rows j := by
  rw [isNumericColumn_iff, columnOfNumbers_iff, List.forall_mem_map]
  simp only [List.mem_map, exists_exists_and_eq_and, cellOrEmpty_ofRow last]

theorem numericColumns_ofRows :
    (Table.ofRows headers rows).numericColumns
      = headers.filter (isNumericColumn (rows.map (Record.ofRow headers))) :=
  Table.numericColumns_eq _

theorem numericColumns_perm (perm : rows'.Perm rows) :
    (Table.ofRows headers rows').numericColumns = (Table.ofRows headers rows).numericColumns := by
  rw [numericColumns_ofRows, numericColumns_ofRows]
  refine List.filter_congr fun column _ => Bool.eq_iff_iff.mpr ?_
  simp only [isNumericColumn_iff, (perm.map (Record.ofRow headers)).mem_iff]

end

namespace Dataset

/-- **Each header is numeric by the column at its last place.**  That column holds numbers and empty
cells, and a number at least; then the header is kept wherever it stands.  So the order of the rows
does not matter, and one cell that is no number, be it the last, is enough against a column. -/
theorem numeric_by_columns {name : String} {bytes : List UInt8} {limits : RowLimits} {d : Dataset}
    (h : ofFile name bytes limits = .ok d) :
    ∃ rows : List (List String),
      rows.map (List.map utf8) = (csvRows bytes).filter (· ≠ [[]]) ∧
      d.table.headers = rows.headD [] ∧
      (∃ keeps : String → Bool, d.table.numericColumns = d.table.headers.filter keeps ∧
        ∀ column j, LastAt d.table.headers column j →
          (keeps column ↔ ColumnOfNumbers rows.tail j)) ∧
      (∀ row ∈ rows.tail, ∀ column j cell, LastAt d.table.headers column j →
        row[j]? = some cell → cell ≠ "" → readNumber? cell = none →
          column ∉ d.table.numericColumns) ∧
      ∀ name' bytes' limits' d', ofFile name' bytes' limits' = .ok d' →
        ((csvRows bytes').filter (· ≠ [[]])).head? = ((csvRows bytes).filter (· ≠ [[]])).head? →
        ((csvRows bytes').filter (· ≠ [[]])).tail.Perm ((csvRows bytes).filter (· ≠ [[]])).tail →
          d'.table.numericColumns = d.table.numericColumns := by
  obtain ⟨-, rows, cells, loaded⟩ := ofFile_eq_ok_iff.mp h
  have texts := csvCells?_eq_some_iff.mp cells
  rw [table_ofRows loaded]
  refine ⟨rows, texts, rfl, ⟨_, numericColumns_ofRows, fun column j => isNumericColumn_ofRows⟩, ?_, ?_⟩
  · intro row hrow column j cell last here filled noNumber numeric
    rw [numericColumns_ofRows, List.mem_filter] at numeric
    have numbers := (isNumericColumn_ofRows last).mp numeric.2
    rcases numbers.cells row hrow cell here with empty | number
    · exact filled empty
    · rw [isNumber, noNumber] at number
      cases number
  · intro name' bytes' limits' d' h' first others
    obtain ⟨-, rows', cells', loaded'⟩ := ofFile_eq_ok_iff.mp h'
    have texts' := csvCells?_eq_some_iff.mp cells'
    have inj : Function.Injective (List.map utf8) := fun _ _ =>
      (List.map_inj_right fun _ _ => utf8_inj).mp
    rw [← texts, ← texts', List.head?_map, List.head?_map] at first
    rw [← texts, ← texts', ← List.map_tail, ← List.map_tail, List.map_perm_map_iff inj] at others
    have headers : rows'.headD [] = rows.headD [] := by
      rw [List.headD_eq_head?_getD, List.headD_eq_head?_getD, Option.map_injective inj first]
    rw [table_ofRows loaded', headers, numericColumns_perm others]

def raggedColumns : Dataset where
  table := ⟨["x", "k", "x"], [⟨[("x", "1"), ("k", ""), ("x", "2")]⟩,
    ⟨[("x", "a"), ("k", "7"), ("x", "")]⟩, ⟨[("x", "3"), ("k", "b"), ("x", "4")]⟩]⟩
  repeatedHeaders := some ["x"]

def reorderedColumns : Dataset where
  table := ⟨["x", "k", "x"], [⟨[("x", "3"), ("k", "b"), ("x", "4")]⟩,
    ⟨[("x", "a"), ("k", "7"), ("x", "")]⟩, ⟨[("x", "1"), ("k", ""), ("x", "2")]⟩]⟩
  repeatedHeaders := some ["x"]

/-- the second row is too short for the last column and has text in the first, which is not looked at;
the middle column fails in the last row -/
theorem numeric_by_columns_ragged :
    let bytes := utf8 "x,k,x\n1,,2\na,7\n3,b,4,5\n"
    let bytes' := utf8 "x,k,x\r3,b,4,5\ra,7\r1,,2"
    let data := [["1", "", "2"], ["a", "7"], ["3", "b", "4", "5"]]
    ofFile "t.csv" bytes {} = .ok raggedColumns ∧ ofFile "u.csv" bytes' {} = .ok reorderedColumns ∧
      LastAt ["x", "k", "x"] "x" 2 ∧ ColumnOfNumbers data 2 ∧ LastAt ["x", "k", "x"] "k" 1 ∧
      readNumber? "b" = none ∧ raggedColumns.table.numericColumns = ["x", "x"] ∧
      reorderedColumns.table.numericColumns = raggedColumns.table.numericColumns := by
  intro bytes bytes' data
  have loaded : ofFile "t.csv" bytes {} = .ok raggedColumns := by decide +kernel
  have loaded' : ofFile "u.csv" bytes' {} = .ok reorderedColumns := by decide +kernel
  have x : LastAt ["x", "k", "x"] "x" 2 :=
    lastAt_cons_succ.mpr (lastAt_cons_succ.mpr (lastAt_cons_zero.mpr ⟨rfl, by decide⟩))
  have k : LastAt ["x", "k", "x"] "k" 1 :=
    lastAt_cons_succ.mpr (lastAt_cons_zero.mpr ⟨rfl, by decide⟩)
  have numbers : ColumnOfNumbers data 2 := columnOfNumbers_iff.mpr (by decide +kernel)
  have text : readNumber? "b" = none := by decide
  obtain ⟨rows, texts, -, ⟨keeps, kept, columns⟩, refused, same⟩ := numeric_by_columns loaded
  have known : (["x", "k", "x"] :: data).map (List.map utf8)
      = (csvRows bytes).filter (· ≠ [[]]) := by decide
  obtain rfl := map_utf8_inj.mp (texts.trans known.symm)
  have keepsX : keeps "x" = true := (columns "x" 2 x).mpr numbers
  have dropsK : "k" ∉ raggedColumns.table.numericColumns :=
    refused ["3", "b", "4", "5"] (by decide) "k" 1 "b" k rfl (by decide) text
  have order := same "u.csv" bytes' {} reorderedColumns loaded' (by decide) (by decide)
  refine ⟨loaded, loaded', x, numbers, k, text, ?_, order⟩
  have keepsK : keeps "k" = false := by
    refine Bool.eq_false_iff.mpr fun keep => dropsK ?_
    rw [kept]
    exact List.mem_filter.mpr ⟨by decide, keep⟩
  rw [kept]
  show ["x", "k", "x"].filter keeps = _
  simp [keepsX, keepsK]

end Dataset

end TableChart
