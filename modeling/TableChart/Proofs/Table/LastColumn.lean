import TableChart.Table

/-!
# The cells of a row under its headers

* `LastAt`            the last place where a name stands among the headers;
* `cell?_ofRow`       a record has the cell at that place, or the empty one if the row is too short,
                      also where the row has a cell at an earlier place of the name;
* `LiesUnder`         a record that is a row laid under headers, said through its cells.
-/

namespace TableChart

/-- a name stands at place `j`, and at no later one -/
structure LastAt (headers : List String) (column : String) (j : Nat) : Prop where
  here : headers[j]? = some column
  later : ∀ k, j < k → headers[k]? ≠ some column

theorem lastAt_cons_succ {h : String} {hs : List String} {column : String} {j : Nat} :
    LastAt (h :: hs) column (j + 1) ↔ LastAt hs column j := by
  constructor
  · intro l
    exact ⟨l.here, fun k hk => l.later (k + 1) (by omega)⟩
  · intro l
    refine ⟨l.here, fun k hk => ?_⟩
    obtain ⟨i, rfl⟩ : ∃ i, k = i + 1 := ⟨k - 1, by omega⟩
    exact l.later i (by omega)

theorem lastAt_cons_zero {h : String} {hs : List String} {column : String} :
    LastAt (h :: hs) column 0 ↔ h = column ∧ column ∉ hs := by
  constructor
  · intro l
    refine ⟨Option.some.inj l.here, fun hm => ?_⟩
    obtain ⟨i, hi⟩ := List.mem_iff_getElem?.mp hm
    exact l.later (i + 1) (by omega) hi
  · rintro ⟨rfl, hm⟩
    refine ⟨rfl, fun k hk e => hm (List.mem_iff_getElem?.mpr ⟨k - 1, ?_⟩)⟩
    obtain ⟨i, rfl⟩ : ∃ i, k = i + 1 := ⟨k - 1, by omega⟩
    exact e

theorem exists_lastAt {headers : List String} {column : String} (h : column ∈ headers) :
    ∃ j, LastAt headers column j := by
  induction headers with
  | nil => exact absurd h List.not_mem_nil
  | cons k ks ih =>
    by_cases hm : column ∈ ks
    · obtain ⟨j, hj⟩ := ih hm
      exact ⟨j + 1, lastAt_cons_succ.mpr hj⟩
    · have e : k = column := ((List.mem_cons.mp h).resolve_right hm).symm
      exact ⟨0, lastAt_cons_zero.mpr ⟨e, hm⟩⟩

theorem underHeaders_cons (h : String) (hs row : List String) :
    underHeaders (h :: hs) row = (h, row.getD 0 "") :: underHeaders hs row.tail := by
  cases row <;> rfl

theorem lastValue?_underHeaders_eq_none {headers : List String} {column : String}
    (h : column ∉ headers) (row : List String) :
    lastValue? column (underHeaders headers row) = none := by
  induction headers generalizing row with
  | nil => rfl
  | cons k ks ih =>
    rw [List.mem_cons, not_or] at h
    obtain ⟨hk, hks⟩ := h
    rw [underHeaders_cons, lastValue?, ih hks]
    exact if_neg (Ne.symm hk)

theorem lastValue?_underHeaders {headers : List String} {column : String} {j : Nat}
    (h : LastAt headers column j) (row : List String) :
    lastValue? column (underHeaders headers row) = some (row.getD j "") := by
  induction headers generalizing row j with
  | nil => exact absurd h.here (by simp)
  | cons k ks ih =>
    rw [underHeaders_cons, lastValue?]
    cases j with
    | zero =>
      obtain ⟨rfl, hm⟩ := lastAt_cons_zero.mp h
      rw [lastValue?_underHeaders_eq_none hm]
      exact if_pos rfl
    | succ j =>
      rw [ih (lastAt_cons_succ.mp h)]
      cases row <;> rfl

namespace Record

theorem cell?_ofRow {headers : List String} {column : String} {j : Nat}
    (h : LastAt headers column j) (row : List String) :
    (ofRow headers row).cell? column = some (row.getD j "") :=
  lastValue?_underHeaders h row

theorem cell?_ofRow_eq_none {headers : List String} {column : String} (h : column ∉ headers)
    (row : List String) : (ofRow headers row).cell? column = none :=
  lastValue?_underHeaders_eq_none h row

/-- each header has the row's cell at the last place of the header, or the empty cell if the row
ends before it; there is nothing else in the record -/
structure LiesUnder (headers row : List String) (r : Record) : Prop where
  cell : ∀ column ∈ headers,
    ∃ j, LastAt headers column j ∧ r.cell? column = some (row.getD j "")
  nothing_else : ∀ column, column ∉ headers → r.cell? column = none

theorem liesUnder_ofRow (headers row : List String) : LiesUnder headers row (ofRow headers row) where
  cell column h := by
    obtain ⟨j, hj⟩ := exists_lastAt h
    exact ⟨j, hj, cell?_ofRow hj row⟩
  nothing_else _ h := cell?_ofRow_eq_none h row

end Record

end TableChart
