import TableChart.Proofs.Csv.Decoded
import TableChart.Proofs.Table.LastColumn
import TableChart.Proofs.Table.Loaded

/-!
# Records mirror the rows of a file

* `LastAt.unique`              a name has one last place among the headers;
* `Record.Mirrors`             a record has just the names of the headers, each with the cell at its last
                               place, and no cell from behind the headers;
* `Record.mirrors_ofRow`       a row laid under its headers is mirrored, however short or long it is;
* `Dataset.records_mirror_rows`   headers and records of a file that is loaded, row by row.
-/

namespace TableChart

section
variable {headers : List String} {column : String} {j k : Nat}

theorem LastAt.lt_length (h : LastAt headers column j) : j < headers.length :=
  List.getElem?_eq_some_iff.mp h.here |>.1

theorem LastAt.mem (h : LastAt headers column j) : column ∈ headers := List.mem_of_getElem? h.here

theorem LastAt.unique (h : LastAt headers column j) (h' : LastAt headers column k) : j = k := by
  rcases Nat.lt_trichotomy j k with before | same | behind
  · exact absurd h'.here (h.later k before)
  · exact same
  · exact absurd h.here (h'.later j behind)

end

namespace Record

structure Mirrors (headers row : List String) (r : Record) : Prop where
  names : ∀ column, (r.cell? column).isSome ↔ column ∈ headers
  cell : ∀ column j, LastAt headers column j → r.cell? column = some (row.getD j "")
  within : ∀ column cell, r.cell? column = some cell →
    ∃ j < headers.length, LastAt headers column j ∧ cell = row.getD j ""

theorem LiesUnder.mirrors {headers row : List String} {r : Record} (h : LiesUnder headers row r) :
    Mirrors headers row r where
  names column := by
    constructor
    · intro present
      by_contra other
      rw [h.nothing_else column other] at present
      cases present
    · intro mem
      obtain ⟨j, -, cell⟩ := h.cell column mem
      rw [cell]
      rfl
  cell column j last := by
    obtain ⟨k, last', cell⟩ := h.cell column last.mem
    rw [last.unique last', cell]
  within column cell present := by
    by_cases mem : column ∈ headers
    · obtain ⟨j, last, here⟩ := h.cell column mem
      exact ⟨j, last.lt_length, last, Option.some.inj (present.symm.trans here)⟩
    · rw [h.nothing_else column mem] at present
      cases present

theorem mirrors_ofRow (headers row : List String) : Mirrors headers row (ofRow headers row) :=
  (liesUnder_ofRow headers row).mirrors

end Record

namespace Dataset

theorem table_ofRows {limits : RowLimits} {rows : List (List String)} {d : Dataset}
    (h : ofRows limits rows = .ok d) : d.table = Table.ofRows (rows.headD []) rows.tail := by
  cases rows with
  | nil =>
    cases h
    rfl
  | cons headers data =>
    obtain ⟨-, rfl⟩ := ofRows_cons_eq_ok_iff.mp h
    rfl

/-- **Records mirror the rows of the file.**  The rows count but those of a single empty field: the
first is the headers, and every other one has a record, in order, that mirrors it. -/
theorem records_mirror_rows {name : String} {bytes : List UInt8} {limits : RowLimits} {d : Dataset}
    (h : ofFile name bytes limits = .ok d) :
    ∃ rows : List (List String),
      rows.map (List.map utf8) = (csvRows bytes).filter (· ≠ [[]]) ∧
      d.table.headers = rows.headD [] ∧ d.table.records.length = rows.length - 1 ∧
      ∀ i r, d.table.records[i]? = some r →
        ∃ row, rows[i + 1]? = some row ∧ r.Mirrors d.table.headers row := by
  obtain ⟨-, rows, cells, loaded⟩ := ofFile_eq_ok_iff.mp h
  rw [table_ofRows loaded]
  refine ⟨rows, csvCells?_eq_some_iff.mp cells, rfl, ?_, fun i r hr => ?_⟩
  · show (rows.tail.map _).length = _
    rw [List.length_map, List.length_tail]
  · have hr : (rows.tail.map (Record.ofRow (rows.headD [])))[i]? = some r := hr
    rw [List.getElem?_map, Option.map_eq_some_iff] at hr
    obtain ⟨row, hrow, rfl⟩ := hr
    rw [List.getElem?_tail] at hrow
    exact ⟨row, hrow, Record.mirrors_ofRow _ row⟩

/-- a name comes twice: the row that ends before its second place has an empty cell under it, and the
row that goes on behind the headers loses its end -/
theorem records_mirror_rows_ragged :
    let file := utf8 "a,b,a\n1,2\n\"\"\n3,4,5,6\n"
    let d : Dataset :=
      { table := ⟨["a", "b", "a"], [⟨[("a", "1"), ("b", "2"), ("a", "")]⟩,
          ⟨[("a", "3"), ("b", "4"), ("a", "5")]⟩]⟩
        repeatedHeaders := some ["a"] }
    ofFile "t.csv" file {} = .ok d ∧
      ∃ rows : List (List String), rows = [["a", "b", "a"], ["1", "2"], ["3", "4", "5", "6"]] ∧
        rows.map (List.map utf8) = (csvRows file).filter (· ≠ [[]]) ∧
        ∀ i r, d.table.records[i]? = some r →
          ∃ row, rows[i + 1]? = some row ∧ r.Mirrors ["a", "b", "a"] row := by
  intro file d
  have loaded : ofFile "t.csv" file {} = .ok d := rfl
  obtain ⟨rows, texts, -, -, mirrored⟩ := records_mirror_rows loaded
  have known : [["a", "b", "a"], ["1", "2"], ["3", "4", "5", "6"]].map (List.map utf8)
      = (csvRows file).filter (· ≠ [[]]) := by decide
  exact ⟨loaded, rows, map_utf8_inj.mp (texts.trans known.symm), texts, mirrored⟩

end Dataset

end TableChart
