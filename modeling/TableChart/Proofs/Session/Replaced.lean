import Mathlib.Data.List.Induction
import TableChart.Proofs.Session.Loads
import TableChart.Proofs.Session.Proposed

/-!
# Data in the place of other data

* `Event.fileFrom`        what an event makes of the file of a session (`file_after`);
* `Opens name calls`      the last load of a run is for `name`, and no reset has come since;
* `file_callAll_iff`      so the file of a session is told by the loads and resets of its run alone;
* `showDataset_eq`        data is shown beside the file and the generation, and all else that was
                          there is gone;
* `history_is_replaced`   two runs that were at the same file are alike once they show the same data.
-/

namespace TableChart

/-! ## events -/

namespace Event

def fileFrom (file : Option String) : Event → Option String
  | .fileSelected name => some name
  | .reset => none
  | _ => file

theorem fileFrom_none {e : Event} (h : ¬ e.begins) : e.fileFrom none = none := by
  cases e with
  | fileSelected name => exact absurd rfl h
  | _ => rfl

theorem fileFrom_eq_some_iff (file : Option String) (e : Event) (name : String) :
    e.fileFrom file = some name ↔
      e = .fileSelected name ∨ (¬ e.begins ∧ e ≠ .reset) ∧ file = some name := by
  cases e <;> simp [fileFrom, begins]

end Event

namespace Session

theorem file_after (s : Session) (e : Event) : (s.after e).file = e.fileFrom s.file := by
  cases e with
  | fileSelected name => rfl
  | dataLoaded generation data =>
    rcases s.after_dataLoaded_cases generation data with ⟨-, e⟩ | ⟨-, e⟩ <;> rw [e]
    · exact file_checked _
    · rfl
  | loadFailed generation message =>
    rcases s.after_loadFailed_cases generation message with ⟨-, e⟩ | ⟨-, e⟩ <;> rw [e] <;> rfl
  | axesSelected axes => exact file_checked _
  | loadingSet loading => rfl
  | warningSet warning => rfl
  | filterSubmitted expression =>
    rcases s.after_filterSubmitted_cases expression with ⟨message, e⟩ | e <;> rw [e]
    · rfl
    · exact file_checked _
  | reset => rfl

end Session

/-! ## runs -/

def Opens (name : String) (calls : List Call) : Prop :=
  ∃ before c since, calls = before ++ c :: since ∧ c.event = .fileSelected name ∧
    ∀ d ∈ since, ¬ d.begins ∧ d.event ≠ .reset

theorem not_opens_nil (name : String) : ¬ Opens name [] := by
  rintro ⟨before, c, since, e, -⟩
  exact List.append_ne_nil_of_right_ne_nil before (List.cons_ne_nil c since) e.symm

theorem opens_concat_iff (name : String) (calls : List Call) (d : Call) :
    Opens name (calls ++ [d]) ↔
      d.event = .fileSelected name ∨ (¬ d.begins ∧ d.event ≠ .reset) ∧ Opens name calls := by
  constructor
  · rintro ⟨before, c, since, e, named, quiet⟩
    -- the load is the last call, or was begun before it
    rcases concat_eq_cases e with ⟨-, rfl, -⟩ | ⟨earlier, rfl, rfl⟩
    · exact Or.inl named
    · exact Or.inr ⟨quiet d (List.mem_append_right _ List.mem_cons_self), before, c, earlier, rfl,
        named, fun x hx => quiet x (List.mem_append_left _ hx)⟩
  · rintro (named | ⟨quiet, before, c, since, rfl, named, earlier⟩)
    · exact ⟨calls, d, [], rfl, named, List.forall_mem_nil _⟩
    · refine ⟨before, c, since ++ [d], ?_, named, fun x hx => ?_⟩
      · rw [List.append_assoc, List.cons_append]
      · rcases List.mem_append.mp hx with hx | hx
        · exact earlier x hx
        · obtain rfl : x = d := List.mem_singleton.mp hx
          exact quiet

namespace Session

theorem file_callAll_iff (calls : List Call) (name : String) :
    (callAll {} calls).file = some name ↔ Opens name calls := by
  induction calls using List.reverseRecOn with
  | nil => exact ⟨nofun, fun h => absurd h (not_opens_nil name)⟩
  | append_singleton calls c ih =>
    rw [callAll_concat, file_after, Event.fileFrom_eq_some_iff, ih, opens_concat_iff]
    rfl

/-! ## data -/

theorem showDataset_eq (s : Session) (d : Dataset) :
    s.showDataset d = showDataset { file := s.file, generation := s.generation } d := rfl

/-- **Nothing of the past is left beside new data.**  The data of the newest load is shown as in a
session that has done nothing but begin as many loads, the last one for the same file.  So two runs
that have begun as many loads as each other, and that both are at one file, are alike in every respect
once they are given the same data. -/
theorem history_is_replaced {name : String} {calls others : List Call}
    (loads : calls.countP Call.begins = others.countP Call.begins)
    (opens : Opens name calls) (opens' : Opens name others) (d : Dataset) :
    let s := callAll {} calls
    let t := callAll {} others
    s.finishLoad s.generation (.ok d) = t.finishLoad t.generation (.ok d) ∧
    s.finishLoad s.generation (.ok d)
      = showDataset { file := some name, generation := calls.countP Call.begins } d := by
  intro s t
  have shown {run : List Call} (h : Opens name run) :
      (callAll {} run).finishLoad (callAll {} run).generation (.ok d)
        = showDataset { file := some name, generation := run.countP Call.begins } d := by
    have taken : (callAll {} run).finishLoad (callAll {} run).generation (.ok d)
        = (callAll {} run).showDataset d := after_dataLoaded _ d
    have file := (file_callAll_iff run name).mpr h
    have generation := (generation_callAll {} run).trans (Nat.zero_add _)
    rw [taken, showDataset_eq, file, generation]
  have left := shown opens
  have right := shown opens'
  rw [← loads] at right
  exact ⟨left.trans right.symm, left⟩

/-- one session shows a table under a filter and a warning, the other the failure of its first load -/
theorem history_is_replaced_after_failure :
    let data : Dataset := { table := ⟨["x"], [⟨[("x", "1")]⟩]⟩ }
    let calls := [Call.beginLoad "a.csv", .finishLoad 1 (.ok data),
      .dispatch (.filterSubmitted "x > 5"), .dispatch (.warningSet (some "old")),
      .beginLoad "c.csv"]
    let others := [Call.beginLoad "b.csv", .dispatch .reset, .dispatch (.fileSelected "c.csv"),
      .finishLoad 2 (.error .invalidFile), .dispatch (.axesSelected ⟨some "x", some "x"⟩)]
    let s := callAll {} calls
    let t := callAll {} others
    calls.countP Call.begins = others.countP Call.begins ∧ Opens "c.csv" calls ∧
      Opens "c.csv" others ∧ s.warning ≠ t.warning ∧ s.loadError ≠ t.loadError ∧
      s.finishLoad s.generation (.ok data) = t.finishLoad t.generation (.ok data) := by
  intro data calls others s t
  have loads : calls.countP Call.begins = others.countP Call.begins := rfl
  have opens : Opens "c.csv" calls := (file_callAll_iff _ _).mp rfl
  have opens' : Opens "c.csv" others := (file_callAll_iff _ _).mp rfl
  exact ⟨loads, opens, opens', by decide, by decide,
    (history_is_replaced loads opens opens' data).1⟩

end Session

end TableChart
