import TableChart.Proofs.Session.Replaced

/-!
# Loads in flight at a reset

A reset empties a session and keeps its generation, so the load that was the newest still is.

* `callAll_reset`              a run goes on from a reset as if it began there, with the generation
                               that was reached;
* `file_callAll`               no file is named again before another load begins;
* `newest_outlives_reset`      what becomes of the loads that a reset finds in flight;
* `newest_shown_after_reset`   the data and the failure of a file that was picked before a reset.
-/

namespace TableChart

namespace Session

/-! ## the file -/

theorem file_callAll {s : Session} (empty : s.file = none) {calls : List Call}
    (h : ∀ c ∈ calls, ¬ c.begins) : (s.callAll calls).file = none := by
  induction calls generalizing s with
  | nil => exact empty
  | cons c cs ih =>
    rw [callAll_cons, call_eq_after]
    refine ih ?_ fun d hd => h d (List.mem_cons_of_mem _ hd)
    rw [file_after, empty]
    exact Event.fileFrom_none (h c List.mem_cons_self)

/-- of what was there before only the file name and the generation are left -/
theorem showDataset_of_no_file {s : Session} (empty : s.file = none) (d : Dataset) :
    s.showDataset d = showDataset { generation := s.generation } d := by
  rw [showDataset_eq, empty]

/-! ## after a reset -/

theorem callAll_reset (before since : List Call) :
    callAll {} (before ++ .dispatch .reset :: since)
      = callAll { generation := before.countP Call.begins } since := by
  have reached : (callAll {} before).generation = before.countP Call.begins :=
    (generation_callAll {} before).trans (Nat.zero_add _)
  rw [callAll_append, callAll_cons, ← reached]
  rfl

/-- **The newest load outlives a reset.**  Until another load begins, the outcome of every other
load is dropped, and that of the newest is taken: its data is shown as in a session where nothing
else has happened, and its failure is told.  Once another load begins, no outcome of a load from
before the reset is ever taken, whatever is called in between. -/
theorem newest_outlives_reset (before : List Call) {since : List Call}
    (h : ∀ c ∈ since, ¬ c.begins) :
    let newest := before.countP Call.begins
    let s := callAll {} (before ++ .dispatch .reset :: since)
    (∀ generation ∈ issued {} before, generation ≠ newest →
      ∀ result, s.finishLoad generation result = s) ∧
    (∀ data, s.finishLoad newest (.ok data) = showDataset { generation := newest } data) ∧
    (∀ f, s.finishLoad newest (.error f)
      = { s with loading := false, loadError := some f.message }) ∧
    ∀ name later, ∀ generation ∈ issued {} before, ∀ result,
      ((s.beginLoad name).callAll later).finishLoad generation result
        = (s.beginLoad name).callAll later := by
  intro newest s
  have run : s = callAll { generation := newest } since := callAll_reset before since
  have current : s.generation = newest := by
    rw [run]
    exact generation_callAll_of_none_begins _ h
  have unnamed : s.file = none := by
    rw [run]
    exact file_callAll rfl h
  refine ⟨fun generation _ other result => ?_, fun data => ?_, fun f => if_pos current.symm, ?_⟩
  · exact s.finishLoad_stale (current ▸ other) result
  · have taken : s.finishLoad newest (.ok data) = s.showDataset data := if_pos current.symm
    rw [taken, showDataset_of_no_file unnamed, current]
  · intro name later generation issued result
    have begun : (s.beginLoad name).generation = newest + 1 := congrArg (· + 1) current
    have beyond := generation_callAll (s.beginLoad name) later
    have earlier : generation ≤ newest := le_of_mem_issued issued
    apply finishLoad_stale
    omega

/-! ### a file that was picked before a reset -/

theorem newest_outlives_reset_of_two :
    let before := [Call.beginLoad "a.csv", .beginLoad "b.csv"]
    let s := callAll {} (before ++ [.dispatch .reset, .dispatch (.warningSet none)])
    (∀ c ∈ [Call.dispatch (.warningSet none)], ¬ c.begins) ∧ issued {} before = [1, 2] ∧
      s.finishLoad 1 (.ok twoColumns) = s ∧
      s.finishLoad 2 (.ok twoColumns) = showDataset { generation := 2 } twoColumns := by
  intro before s
  have h : ∀ c ∈ [Call.dispatch (.warningSet none)], ¬ c.begins := by
    simp [Call.begins, Call.event, Event.begins]
  obtain ⟨others, data, -⟩ := newest_outlives_reset before h
  exact ⟨h, rfl, others 1 (by decide) (by decide) _, data twoColumns⟩

/-- the load is in flight when the session is reset, and its outcome changes the empty session -/
theorem newest_shown_after_reset :
    let s := callAll {} [.beginLoad "a.csv", .dispatch .reset]
    1 ∈ issued {} [.beginLoad "a.csv"] ∧ s = { generation := 1 } ∧
      Dataset.ofFile "a.csv" (utf8 "a,b\n1,3\n") {} = .ok twoColumns ∧
      s.finishLoad 1 (.ok twoColumns) ≠ s ∧
      (s.finishLoad 1 (.ok twoColumns)).table = twoColumns.table ∧
      s.finishLoad 1 (.error .invalidFile)
        = { generation := 1, loadError := some "Failed to parse CSV file" } := by
  intro s
  have shown : (s.finishLoad 1 (.ok twoColumns)).table = twoColumns.table := table_checked _
  refine ⟨by decide, rfl, rfl, fun same => ?_, shown, rfl⟩
  rw [same] at shown
  exact absurd shown (by decide)

end Session

end TableChart
