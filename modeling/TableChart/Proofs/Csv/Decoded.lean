import Mathlib.Data.Set.List
import TableChart.Csv.Cells
import TableChart.Proofs.Text.Utf8

/-!
# Decoding rows

* `decodeRows_eq_some_iff`   rows are decoded to the texts whose bytes they hold;
* `csvCells?_eq_some_iff`    the cells of a file are those of its rows but the blank ones;
* `csvCells?_eq_none_iff`    a file has no cells exactly if some field holds no text.
-/

namespace TableChart

theorem utf8_inj {s t : String} (h : utf8 s = utf8 t) : s = t := by
  have e := decodeField?_utf8 s
  rw [h, decodeField?_utf8] at e
  exact (Option.some.inj e).symm

theorem map_utf8_inj {rows rows' : List (List String)} :
    rows.map (List.map utf8) = rows'.map (List.map utf8) ↔ rows = rows' :=
  List.map_inj_right fun _ _ => (List.map_inj_right fun _ _ => utf8_inj).mp

/-! ## rows -/

theorem mapM_eq_some_iff {α β : Type} {decode : α → Option β} {encode : β → α}
    (h : ∀ a b, decode a = some b ↔ encode b = a) {as : List α} {bs : List β} :
    as.mapM decode = some bs ↔ bs.map encode = as := by
  induction as generalizing bs with
  | nil => simp [List.mapM_nil, eq_comm]
  | cons a as ih =>
    rw [List.mapM_cons]
    simp only [Option.bind_eq_bind, Option.bind_eq_some_iff, Option.pure_def, Option.some.injEq, h]
    constructor
    · rintro ⟨b, rfl, rest, hrest, rfl⟩
      rw [List.map_cons, ih.mp hrest]
    · intro e
      cases bs with
      | nil => cases e
      | cons b bs =>
        obtain ⟨hb, hbs⟩ := List.cons.inj e
        exact ⟨b, hb, bs, ih.mpr hbs, rfl⟩

theorem decodeRows_eq_some_iff {rows : List (List (List UInt8))} {cells : List (List String)} :
    rows.mapM decodeRow? = some cells ↔ cells.map (List.map utf8) = rows :=
  mapM_eq_some_iff fun _ _ => mapM_eq_some_iff fun _ _ => decodeField?_eq_some_iff

/-- a row of one empty cell is written as a row of one empty field, and no other row is -/
theorem filter_map_utf8 (rows : List (List String)) :
    (rows.map (List.map utf8)).filter (· ≠ [[]])
      = (rows.filter (· ≠ [""])).map (List.map utf8) := by
  rw [List.filter_map]
  refine congrArg _ (List.filter_congr fun row _ => decide_eq_decide.mpr (not_congr ?_))
  have blank : [[]] = [""].map utf8 := rfl
  rw [blank]
  exact List.map_inj_right fun _ _ => utf8_inj

/-! ## files -/

theorem csvCells?_eq {bytes : List UInt8} {rows : List (List String)}
    (h : csvRows bytes = rows.map (List.map utf8)) :
    csvCells? bytes = some (rows.filter (· ≠ [""])) := by
  unfold csvCells?
  rw [decodeRows_eq_some_iff.mpr h.symm]
  rfl

theorem csvCells?_of_texts {bytes : List UInt8}
    (h : ∀ row ∈ csvRows bytes, ∀ field ∈ row, IsText field) :
    ∃ rows, csvCells? bytes = some rows := by
  have rows : csvRows bytes ∈ Set.range (List.map (List.map utf8)) := by
    rw [Set.range_list_map, Set.range_list_map]
    exact h
  obtain ⟨rows, hrows⟩ := rows
  exact ⟨_, csvCells?_eq hrows.symm⟩

theorem csvRows_of_csvCells? {bytes : List UInt8} {cells : List (List String)}
    (h : csvCells? bytes = some cells) :
    ∃ rows : List (List String),
      csvRows bytes = rows.map (List.map utf8) ∧ cells = rows.filter (· ≠ [""]) := by
  unfold csvCells? at h
  obtain ⟨rows, decoded, rfl⟩ := Option.map_eq_some_iff.mp h
  exact ⟨rows, (decodeRows_eq_some_iff.mp decoded).symm, rfl⟩

theorem csvCells?_eq_none_iff {bytes : List UInt8} :
    csvCells? bytes = none ↔ ∃ row ∈ csvRows bytes, ∃ field ∈ row, ¬ IsText field := by
  constructor
  · intro h
    by_contra texts
    push Not at texts
    obtain ⟨rows, cells⟩ := csvCells?_of_texts texts
    rw [h] at cells
    cases cells
  · rintro ⟨row, hrow, field, hfield, noText⟩
    cases h : csvCells? bytes with
    | none => rfl
    | some cells =>
      obtain ⟨rows, e, -⟩ := csvRows_of_csvCells? h
      rw [e] at hrow
      obtain ⟨texts, -, rfl⟩ := List.mem_map.mp hrow
      obtain ⟨s, -, rfl⟩ := List.mem_map.mp hfield
      exact absurd ⟨s, rfl⟩ noText

theorem csvCells?_eq_some_iff {bytes : List UInt8} {cells : List (List String)} :
    csvCells? bytes = some cells ↔
      cells.map (List.map utf8) = (csvRows bytes).filter (· ≠ [[]]) := by
  have kept {cells : List (List String)} (h : csvCells? bytes = some cells) :
      cells.map (List.map utf8) = (csvRows bytes).filter (· ≠ [[]]) := by
    obtain ⟨rows, e, rfl⟩ := csvRows_of_csvCells? h
    rw [e, filter_map_utf8]
  refine ⟨kept, fun e => ?_⟩
  have texts : ∀ row ∈ csvRows bytes, ∀ field ∈ row, IsText field := by
    intro row hrow field hfield
    by_cases blank : row = [[]]
    · rw [blank, List.mem_singleton] at hfield
      exact hfield ▸ isText_nil
    · have hm : row ∈ cells.map (List.map utf8) := by
        rw [e]
        exact List.mem_filter.mpr ⟨hrow, decide_eq_true blank⟩
      obtain ⟨r, -, rfl⟩ := List.mem_map.mp hm
      obtain ⟨s, -, rfl⟩ := List.mem_map.mp hfield
      exact ⟨s, rfl⟩
  obtain ⟨cells', h⟩ := csvCells?_of_texts texts
  rw [h, map_utf8_inj.mp ((kept h).trans e.symm)]

theorem csvCells?_congr {bytes bytes' : List UInt8}
    (h : (csvRows bytes).filter (· ≠ [[]]) = (csvRows bytes').filter (· ≠ [[]])) :
    csvCells? bytes = csvCells? bytes' := by
  refine Option.ext fun cells => ?_
  rw [csvCells?_eq_some_iff, csvCells?_eq_some_iff, h]

end TableChart
