import TableChart.Proofs.Csv.Between
import TableChart.Proofs.Table.Loaded

/-!
# Limits on rows

* `RowLimits.gate`         what limits make of a dataset that was read without any;
* `ofFile_eq_bind`         limits act on what was read, and on nothing before it;
* `length_records`         the records of a file are its rows but the blank ones and the first;
* `ofFile_of_blanks`       blank lines between rows change nothing.

A cap that the bytes of a file cannot reach (`length_csvRows_le`) stands for none.
-/

namespace TableChart

namespace RowLimits
variable (limits : RowLimits) (d : Dataset)

def gate : Except Fault Dataset :=
  let n := d.table.records.length
  if limits.cap < n then .error (.tooManyRows limits.cap)
  else .ok { d with
    sizeWarning := if limits.warnAbove < n then some (.manyRows n limits.warnAbove) else none }

theorem gate_of_le (h : d.table.records.length ≤ limits.cap) :
    limits.gate d = .ok { d with
      sizeWarning :=
        if limits.warnAbove < d.table.records.length then
          some (.manyRows d.table.records.length limits.warnAbove)
        else none } := if_neg (Nat.not_lt.mpr h)

theorem gate_eq_error_iff :
    limits.gate d = .error (.tooManyRows limits.cap) ↔ limits.cap < d.table.records.length := by
  refine ⟨fun refused => Nat.lt_of_not_le fun few => ?_, fun many => if_pos many⟩
  rw [gate_of_le limits d few] at refused
  cases refused

end RowLimits

namespace Dataset

/-! ## what limits act on -/

theorem ofRows_eq_bind (limits : RowLimits) {top : RowLimits} {rows : List (List String)}
    (h : rows.length ≤ top.cap) : ofRows limits rows = (ofRows top rows).bind limits.gate := by
  cases rows with
  | nil =>
    show _ = limits.gate {}
    rw [limits.gate_of_le {} (Nat.zero_le _)]
    rfl
  | cons headers rows =>
    have below : ¬ top.cap < rows.length := by
      rw [List.length_cons] at h
      omega
    have length : (Table.ofRows headers rows).records.length = rows.length := List.length_map _
    rw [ofRows, ofRows, if_neg below]
    show _ = limits.gate _
    unfold RowLimits.gate
    rw [length]

theorem length_csvCells?_le {bytes : List UInt8} {rows : List (List String)}
    (h : csvCells? bytes = some rows) : rows.length ≤ bytes.length := by
  have e := congrArg List.length (csvCells?_eq_some_iff.mp h)
  rw [List.length_map] at e
  calc rows.length = ((csvRows bytes).filter (· ≠ [[]])).length := e
    _ ≤ (csvRows bytes).length := List.length_filter_le _ _
    _ ≤ bytes.length := length_csvRows_le bytes

theorem ofFile_eq_bind (name : String) {bytes : List UInt8} (limits : RowLimits) {top : RowLimits}
    (h : bytes.length ≤ top.cap) :
    ofFile name bytes limits = (ofFile name bytes top).bind limits.gate := by
  unfold ofFile
  by_cases csv : FileKind.ofName name = .csv
  · rw [if_pos csv, if_pos csv]
    cases cells : csvCells? bytes with
    | none => rfl
    | some rows => exact ofRows_eq_bind limits ((length_csvCells?_le cells).trans h)
  · rw [if_neg csv, if_neg csv]
    rfl

theorem ofFile_of_invalid {name : String} {bytes : List UInt8}
    (h : FileKind.ofName name ≠ .csv ∨ ∃ row ∈ csvRows bytes, ∃ field ∈ row, ¬ IsText field)
    (limits : RowLimits) : ofFile name bytes limits = .error .invalidFile := by
  unfold ofFile
  rcases h with other | undecodable
  · exact if_neg other
  · rw [csvCells?_eq_none_iff.mpr undecodable]
    exact ite_self _

/-! ## what counts as a row -/

theorem length_records {name : String} {bytes : List UInt8} {limits : RowLimits} {d : Dataset}
    (h : ofFile name bytes limits = .ok d) :
    d.table.records.length = (csvRows bytes).countP (· ≠ [[]]) - 1 := by
  obtain ⟨-, rows, cells, hd⟩ := ofFile_eq_ok_iff.mp h
  have count : rows.length = (csvRows bytes).countP (· ≠ [[]]) := by
    rw [List.countP_eq_length_filter, ← csvCells?_eq_some_iff.mp cells, List.length_map]
  rw [← count]
  cases rows with
  | nil =>
    cases hd
    rfl
  | cons headers rows =>
    obtain ⟨-, rfl⟩ := ofRows_cons_eq_ok_iff.mp hd
    exact List.length_map _

theorem ofFile_of_blanks (name : String) (limits : RowLimits) {front rest : List UInt8}
    (place : BetweenRows front rest) {lines : List (List UInt8)}
    (blank : ∀ line ∈ lines, isBlankLine line) :
    ofFile name (front ++ (lines.flatten ++ rest)) limits = ofFile name (front ++ rest) limits := by
  unfold ofFile
  rw [csvCells?_congr (filter_csvRows_blanks place blank)]

/-- **Limits only gate the result.**  With a cap that cannot be reached a file is refused for its
name or its bytes alone, and then it is so under all limits; else all limits lead to the same dataset,
the size warning apart, or to a refusal for too many records.  Blank rows are no records, and blank
lines between rows change nothing. -/
theorem limits_only_gate (name : String) (bytes : List UInt8) (limits : RowLimits) {top : RowLimits}
    (unreachable : bytes.length ≤ top.cap) :
    (∀ f, ofFile name bytes top = .error f → ofFile name bytes limits = .error f) ∧
    (FileKind.ofName name ≠ .csv ∨
        (∃ row ∈ csvRows bytes, ∃ field ∈ row, ¬ field.toByteArray.IsValidUTF8) →
      ofFile name bytes limits = .error .invalidFile) ∧
    (∀ d, ofFile name bytes top = .ok d →
      let n := d.table.records.length
      n = (csvRows bytes).countP (· ≠ [[]]) - 1 ∧
      (ofFile name bytes limits = .error (.tooManyRows limits.cap) ↔ limits.cap < n) ∧
      (n ≤ limits.cap → ofFile name bytes limits = .ok { d with
        sizeWarning :=
          if limits.warnAbove < n then some (.manyRows n limits.warnAbove) else none })) ∧
    ∀ front rest, bytes = front ++ rest → BetweenRows front rest →
      ∀ lines : List (List UInt8), (∀ line ∈ lines, isBlankLine line) →
        ofFile name (front ++ (lines.flatten ++ rest)) limits = ofFile name bytes limits := by
  have gated := ofFile_eq_bind name limits unreachable
  refine ⟨fun f refused => ?_, fun invalid => ?_, fun d loaded => ?_, ?_⟩
  · rw [gated, refused]
    rfl
  · simp only [← isText_iff] at invalid
    exact ofFile_of_invalid invalid limits
  · have known : ofFile name bytes limits = limits.gate d := by
      rw [gated, loaded]
      rfl
    rw [known]
    exact ⟨length_records loaded, limits.gate_eq_error_iff d, limits.gate_of_le d⟩
  · rintro front rest rfl place lines blank
    exact ofFile_of_blanks name limits place blank

/-! ### two records between blank lines, and a file that is refused for two reasons -/

def twoRecords : Dataset where
  table := ⟨["a"], [⟨[("a", "1")]⟩, ⟨[("a", "2")]⟩]⟩

theorem limits_only_gate_two_records :
    let front := utf8 "a\n1\n"
    let rest := utf8 "\"\"\n\r2\n"
    let top : RowLimits := ⟨18446744073709551615, 18446744073709551615⟩
    (front ++ rest).length ≤ top.cap ∧ BetweenRows front rest ∧
      ofFile "a.csv" (front ++ rest) top = .ok twoRecords ∧
      ofFile "a.csv" (front ++ rest) ⟨1, 0⟩ = .error (.tooManyRows 1) ∧
      ofFile "a.csv" (front ++ rest) ⟨2, 1⟩
        = .ok { twoRecords with sizeWarning := some (.manyRows 2 1) } ∧
      ofFile "a.csv" (front ++ ([utf8 "\n", utf8 "\"\"\r"].flatten ++ rest)) ⟨1, 0⟩
        = .error (.tooManyRows 1) ∧
      ofFile "a.csv" (front ++ [0x32, 0x0A, 0xFF]) ⟨1, 0⟩ = .error .invalidFile := by
  intro front rest top
  have small : (front ++ rest).length ≤ top.cap := by decide
  have place : BetweenRows front rest := ⟨by decide, nofun⟩
  have loaded : ofFile "a.csv" (front ++ rest) top = .ok twoRecords := rfl
  obtain ⟨-, -, gate, blanks⟩ := limits_only_gate "a.csv" (front ++ rest) ⟨1, 0⟩ small
  have many : ofFile "a.csv" (front ++ rest) ⟨1, 0⟩ = .error (.tooManyRows 1) :=
    (gate twoRecords loaded).2.1.mpr (by decide)
  obtain ⟨-, -, wider, -⟩ := limits_only_gate "a.csv" (front ++ rest) ⟨2, 1⟩ small
  have few := (wider twoRecords loaded).2.2 (by decide)
  have more := blanks front rest rfl place [utf8 "\n", utf8 "\"\"\r"] (by decide)
  have notText : ¬ ([0xFF] : List UInt8).toByteArray.IsValidUTF8 := by decide
  have invalid := (limits_only_gate "a.csv" (front ++ [0x32, 0x0A, 0xFF]) ⟨1, 0⟩
    (show _ ≤ top.cap by decide)).2.1 (Or.inr ⟨[[0xFF]], by decide, [0xFF], by decide, notText⟩)
  exact ⟨small, place, loaded, many, few, more.trans many, invalid⟩

end Dataset

end TableChart
