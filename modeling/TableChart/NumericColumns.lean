import TableChart.Decimal.Numeral
import TableChart.Table

/-!
# Numeric columns

A column is numeric if it holds a number, and nothing else but numbers and empty cells.

* `Table.numericColumns`      the numeric headers, a repeated one at each of its places; found in
                              one pass over the records that collects evidence on every column;
* `Table.numericColumns_eq`   each header is judged by its own cells.
-/

namespace TableChart

def isNumber (cell : String) : Bool := (readNumber? cell).isSome

def isNumericColumn (records : List Record) (column : String) : Bool :=
  let cells := (records.map (·.cellOrEmpty column)).filter (· ≠ "")
  !cells.isEmpty && cells.all isNumber

theorem isNumericColumn_iff {records : List Record} {column : String} :
    isNumericColumn records column ↔
      (∃ r ∈ records, r.cellOrEmpty column ≠ "") ∧
      ∀ r ∈ records, r.cellOrEmpty column = "" ∨ isNumber (r.cellOrEmpty column) := by
  simp [isNumericColumn, List.filter_eq_nil_iff, Classical.or_iff_not_imp_left]

/-! ## evidence -/

/-- what the cells of a column have shown so far -/
inductive Evidence where
  | nothing
  | numbers
  | text
deriving DecidableEq

namespace Evidence

def add (e : Evidence) (cell : String) : Evidence :=
  if cell = "" then e
  else if e ≠ .text ∧ isNumber cell then .numbers
  else .text

/-- the evidence of the records on a column, after `e` -/
def ofRecords (e : Evidence) (column : String) (records : List Record) : Evidence :=
  records.foldl (fun e r => e.add (r.cellOrEmpty column)) e

theorem ofRecords_text (column : String) (records : List Record) :
    ofRecords .text column records = .text := by
  induction records with
  | nil => rfl
  | cons r rs ih =>
    have h : add .text (r.cellOrEmpty column) = .text := by
      unfold add
      split <;> simp
    simpa [ofRecords, h] using ih

theorem ofRecords_numbers (column : String) (records : List Record) :
    ofRecords .numbers column records = .numbers
      ↔ ((records.map (·.cellOrEmpty column)).filter (· ≠ "")).all isNumber := by
  induction records with
  | nil => simp [ofRecords]
  | cons r rs ih =>
    have step : ofRecords .numbers column (r :: rs)
        = ofRecords (add .numbers (r.cellOrEmpty column)) column rs := rfl
    rw [step]
    by_cases e : r.cellOrEmpty column = ""
    · simpa [add, e] using ih
    · by_cases n : isNumber (r.cellOrEmpty column)
      · simpa [add, e, n] using ih
      · simp [add, e, n, ofRecords_text]

theorem ofRecords_nothing (column : String) (records : List Record) :
    ofRecords .nothing column records = .numbers ↔ isNumericColumn records column := by
  induction records with
  | nil => simp [ofRecords, isNumericColumn]
  | cons r rs ih =>
    have step : ofRecords .nothing column (r :: rs)
        = ofRecords (add .nothing (r.cellOrEmpty column)) column rs := rfl
    rw [step]
    by_cases e : r.cellOrEmpty column = ""
    · simpa [add, e, isNumericColumn] using ih
    · by_cases n : isNumber (r.cellOrEmpty column)
      · have h := ofRecords_numbers column rs
        simpa [add, e, n, isNumericColumn] using h
      · simp [add, e, n, ofRecords_text, isNumericColumn]

/-- the evidence on several columns after one more record -/
def weigh (columns : List (String × Evidence)) (r : Record) : List (String × Evidence) :=
  let index := r.index
  columns.map fun (column, e) => (column, e.add (index.getD column ""))

theorem foldl_weigh (records : List Record) (columns : List (String × Evidence)) :
    records.foldl weigh columns
      = columns.map fun (column, e) => (column, ofRecords e column records) := by
  induction records generalizing columns with
  | nil => simp [ofRecords]
  | cons r rs ih =>
    rw [List.foldl_cons, ih, weigh, List.map_map]
    exact List.map_congr_left fun p _ => by simp [ofRecords]

end Evidence

/-! ## tables -/

def Table.numericColumns (t : Table) : List String :=
  let evidence := t.records.foldl Evidence.weigh (t.headers.eraseDups.map (·, .nothing))
  let numeric := (evidence.filter (·.2 = .numbers)).map Prod.fst
  t.headers.filter (· ∈ numeric)

theorem Table.numericColumns_eq (t : Table) :
    t.numericColumns = t.headers.filter (isNumericColumn t.records) := by
  unfold Table.numericColumns
  refine List.filter_congr fun h hh => Bool.eq_iff_iff.mpr ?_
  rw [Evidence.foldl_weigh, ← Evidence.ofRecords_nothing]
  simp only [decide_eq_true_eq, List.mem_map, List.mem_filter, List.mem_eraseDups]
  constructor
  · rintro ⟨_, ⟨⟨_, ⟨c, _, rfl⟩, rfl⟩, e⟩, rfl⟩
    exact e
  · intro e
    exact ⟨_, ⟨⟨_, ⟨h, hh, rfl⟩, rfl⟩, e⟩, rfl⟩

end TableChart
