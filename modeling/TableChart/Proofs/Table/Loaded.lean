import TableChart.Dataset
import TableChart.Proofs.Table.Repeats
import TableChart.Proofs.Text.Utf8

/-!
# What a loaded dataset is made of

* `Dataset.ofFile_eq_ok_iff`, `ofRows_cons_eq_ok_iff`   when a file is loaded, and as what;
* `Dataset.repeatedHeaders_eq`                          the headers that repeat another are reported,
                                                        where there are such;
* `Dataset.repeats_reported`                            which ones these are.
-/

namespace TableChart.Dataset

variable {limits : RowLimits} {d : Dataset}

theorem ofFile_eq_ok_iff {name : String} {bytes : List UInt8} :
    ofFile name bytes limits = .ok d ↔
      FileKind.ofName name = .csv ∧ ∃ rows, csvCells? bytes = some rows ∧ ofRows limits rows = .ok d := by
  unfold ofFile
  by_cases csv : FileKind.ofName name = .csv
  · rw [if_pos csv]
    cases csvCells? bytes with
    | none => exact ⟨nofun, fun ⟨_, _, h, _⟩ => absurd h nofun⟩
    | some rows => exact ⟨fun h => ⟨csv, rows, rfl, h⟩, fun ⟨_, _, h, hd⟩ => Option.some.inj h ▸ hd⟩
  · rw [if_neg csv]
    exact ⟨nofun, fun h => absurd h.1 csv⟩

theorem ofRows_cons_eq_ok_iff {headers : List String} {rows : List (List String)} :
    ofRows limits (headers :: rows) = .ok d ↔ rows.length ≤ limits.cap ∧ d =
      { table := Table.ofRows headers rows
        repeatedHeaders := if repeats headers = [] then none else some (repeats headers)
        sizeWarning :=
          if limits.warnAbove < rows.length then some (.manyRows rows.length limits.warnAbove)
          else none } := by
  rw [ofRows]
  by_cases many : limits.cap < rows.length
  · rw [if_pos many]
    exact ⟨nofun, fun h => absurd h.1 (Nat.not_le.mpr many)⟩
  · rw [if_neg many]
    exact ⟨fun h => ⟨Nat.not_lt.mp many, (Except.ok.inj h).symm⟩, fun h => congrArg _ h.2.symm⟩

/-! ## repeated headers -/

theorem repeatedHeaders_eq {name : String} {bytes : List UInt8}
    (h : ofFile name bytes limits = .ok d) :
    d.repeatedHeaders =
      if d.table.headers.Nodup then none else some (repeats d.table.headers) := by
  obtain ⟨-, rows, -, hd⟩ := ofFile_eq_ok_iff.mp h
  cases rows with
  | nil =>
    cases hd
    rfl
  | cons headers rows =>
    obtain ⟨-, rfl⟩ := ofRows_cons_eq_ok_iff.mp hd
    simp only [repeats_eq_nil_iff]
    rfl

theorem nodup_headers_iff {name : String} {bytes : List UInt8}
    (h : ofFile name bytes limits = .ok d) :
    d.repeatedHeaders = none ↔ d.table.headers.Nodup := by
  rw [repeatedHeaders_eq h]
  split <;> simp_all

/-- **Each header that repeats another is reported, and no other one.**  In any list the repeats are what
stands behind an equal element.  A file that is loaded reports those of its headers, in their order,
and nothing at all if its headers are different. -/
theorem repeats_reported :
    (∀ {α : Type} [DecidableEq α] (l : List α), RepeatsOf l (repeats l)) ∧
    ∀ {name : String} {bytes : List UInt8} {limits : RowLimits} {d : Dataset},
      ofFile name bytes limits = .ok d →
        (d.repeatedHeaders = none ↔ d.table.headers.Nodup) ∧
        ∀ r, d.repeatedHeaders = some r → RepeatsOf d.table.headers r := by
  refine ⟨fun l => repeatsOf_repeats l, fun {name bytes limits d} h => ?_⟩
  refine ⟨nodup_headers_iff h, fun r reported => ?_⟩
  rw [repeatedHeaders_eq h] at reported
  split at reported
  · cases reported
  · cases reported
    exact repeatsOf_repeats _

def sixColumns : Dataset where
  table := ⟨["a", "b", "a", "c", "b", "a"], []⟩
  repeatedHeaders := some ["a", "b", "a"]

/-- two names come back, one of them twice; and a file of two different names -/
theorem repeats_reported_six_columns :
    ofFile "t.csv" (utf8 "a,b,a,c,b,a\n") {} = .ok sixColumns ∧
      RepeatsOf ["a", "b", "a", "c", "b", "a"] ["a", "b", "a"] ∧
      ofFile "t.csv" (utf8 "a,b\n") {} = .ok { table := ⟨["a", "b"], []⟩ } ∧
      ["a", "b"].Nodup := by
  have six : ofFile "t.csv" (utf8 "a,b,a,c,b,a\n") {} = .ok sixColumns := rfl
  have two : ofFile "t.csv" (utf8 "a,b\n") {} = .ok { table := ⟨["a", "b"], []⟩ } := rfl
  exact ⟨six, (repeats_reported.2 six).2 _ rfl, two, (repeats_reported.2 two).1.mp rfl⟩

end TableChart.Dataset
