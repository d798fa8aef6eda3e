import Mathlib.Data.List.Induction
import TableChart.Proofs.Session.Loads

/-!
# The loading flag

* `Event.ends`           what ends the wait for the load of a generation: its outcome, or a reset;
* `Awaited`              a load has begun in a run, and nothing has ended the wait for the last one;
* `flags_after`          what one event does to the flag, and to the error beside it;
* `awaited_concat_iff`   what one more call does to a run.

The two go in step, so the flag is up exactly while a load is awaited.  Only setting it directly can
put it otherwise, and runs in which that happens are left out.
-/

namespace TableChart

namespace Event

def ends (generation : Nat) : Event → Bool
  | .dataLoaded g _ | .loadFailed g _ => g = generation
  | .reset => true
  | _ => false

def setsLoading : Event → Bool
  | .loadingSet _ => true
  | _ => false

end Event

namespace Session

/-! ## one event -/

/-- the start of a load puts the flag up and clears the error, what is awaited takes the flag down,
and all else leaves both alone -/
theorem flags_after (s : Session) {e : Event} (h : ¬ e.setsLoading) :
    (e.begins ∧ (s.after e).loading ∧ (s.after e).loadError = none) ∨
    (¬ e.begins ∧ e.ends s.generation ∧ (s.after e).loading = false) ∨
    (¬ e.begins ∧ ¬ e.ends s.generation ∧
      (s.after e).loading = s.loading ∧ (s.after e).loadError = s.loadError) := by
  cases e with
  | fileSelected name => exact Or.inl ⟨rfl, rfl, rfl⟩
  | dataLoaded generation data =>
    refine Or.inr ?_
    rcases s.after_dataLoaded_cases generation data with ⟨current, e⟩ | ⟨other, e⟩ <;> rw [e]
    · exact Or.inl ⟨Bool.false_ne_true, decide_eq_true current, loading_checked _⟩
    · exact Or.inr ⟨Bool.false_ne_true, by simpa [Event.ends] using other, rfl, rfl⟩
  | loadFailed generation message =>
    refine Or.inr ?_
    rcases s.after_loadFailed_cases generation message with ⟨current, e⟩ | ⟨other, e⟩ <;> rw [e]
    · exact Or.inl ⟨Bool.false_ne_true, decide_eq_true current, rfl⟩
    · exact Or.inr ⟨Bool.false_ne_true, by simpa [Event.ends] using other, rfl, rfl⟩
  | axesSelected axes =>
    exact Or.inr (Or.inr ⟨Bool.false_ne_true, Bool.false_ne_true, loading_checked _,
      loadError_checked _⟩)
  | loadingSet loading => exact absurd rfl h
  | warningSet warning => exact Or.inr (Or.inr ⟨Bool.false_ne_true, Bool.false_ne_true, rfl, rfl⟩)
  | filterSubmitted expression =>
    refine Or.inr (Or.inr ⟨Bool.false_ne_true, Bool.false_ne_true, ?_⟩)
    rcases s.after_filterSubmitted_cases expression with ⟨message, e⟩ | e <;> rw [e]
    · exact ⟨rfl, rfl⟩
    · exact ⟨loading_checked _, loadError_checked _⟩
  | reset => exact Or.inr (Or.inl ⟨Bool.false_ne_true, rfl, rfl⟩)

end Session

/-! ## runs -/

/-- the load that `c` begins is the last one of the run, and is given the generation of the session
that `c` leaves -/
def Awaited (calls : List Call) : Prop :=
  ∃ before c since, calls = before ++ c :: since ∧ c.begins ∧
    ∀ d ∈ since, ¬ d.begins ∧ ¬ d.event.ends (Session.callAll {} (before ++ [c])).generation

theorem not_awaited_nil : ¬ Awaited [] := by
  rintro ⟨before, c, since, e, -⟩
  exact List.append_ne_nil_of_right_ne_nil before (List.cons_ne_nil c since) e.symm

theorem awaited_of_begins (calls : List Call) {d : Call} (h : d.begins) : Awaited (calls ++ [d]) :=
  ⟨calls, d, [], rfl, h, List.forall_mem_nil _⟩

theorem Awaited.concat {calls : List Call} (h : Awaited calls) {d : Call} (notBegins : ¬ d.begins)
    (notEnds : ¬ d.event.ends (Session.callAll {} calls).generation) : Awaited (calls ++ [d]) := by
  obtain ⟨before, c, since, rfl, begins, waits⟩ := h
  rw [Session.generation_last_begun before c fun x hx => (waits x hx).1] at notEnds
  refine ⟨before, c, since ++ [d], ?_, begins, fun x hx => ?_⟩
  · rw [List.append_assoc, List.cons_append]
  · rcases List.mem_append.mp hx with hx | hx
    · exact waits x hx
    · obtain rfl : x = d := List.mem_singleton.mp hx
      exact ⟨notBegins, notEnds⟩

theorem awaited_concat_iff (calls : List Call) (d : Call) :
    Awaited (calls ++ [d]) ↔ d.begins ∨
      ¬ d.begins ∧ ¬ d.event.ends (Session.callAll {} calls).generation ∧ Awaited calls := by
  constructor
  · rintro ⟨before, c, since, e, begins, waits⟩
    -- the run ends with the start of the load, or with a call since then
    rcases concat_eq_cases e with ⟨-, rfl, -⟩ | ⟨earlier, rfl, rfl⟩
    · exact Or.inl begins
    · have waited : ∀ x ∈ earlier, ¬ x.begins ∧ ¬ x.event.ends _ := fun x hx =>
        waits x (List.mem_append_left _ hx)
      obtain ⟨notBegins, notEnds⟩ := waits d (List.mem_append_right _ List.mem_cons_self)
      rw [Session.generation_last_begun before c fun x hx => (waited x hx).1]
      exact Or.inr ⟨notBegins, notEnds, before, c, earlier, rfl, begins, waited⟩
  · rintro (begins | ⟨notBegins, notEnds, awaited⟩)
    · exact awaited_of_begins calls begins
    · exact awaited.concat notBegins notEnds

namespace Session

theorem loading_callAll {calls : List Call} (h : ∀ c ∈ calls, ¬ c.event.setsLoading) :
    ((callAll {} calls).loading ↔ Awaited calls) ∧
      ((callAll {} calls).loading → (callAll {} calls).loadError = none) := by
  induction calls using List.reverseRecOn with
  | nil => exact ⟨⟨nofun, fun h => absurd h not_awaited_nil⟩, nofun⟩
  | append_singleton calls c ih =>
    obtain ⟨awaited, quiet⟩ := ih fun d hd => h d (List.mem_append_left _ hd)
    have allowed := h c (List.mem_append_right _ List.mem_cons_self)
    rw [callAll_concat, awaited_concat_iff]
    rcases flags_after (callAll {} calls) allowed with
      ⟨begins, up, cleared⟩ | ⟨notBegins, ends, down⟩ | ⟨notBegins, notEnds, same, sameError⟩
    · exact ⟨⟨fun _ => Or.inl begins, fun _ => up⟩, fun _ => cleared⟩
    · rw [down]
      refine ⟨⟨nofun, fun waits => ?_⟩, nofun⟩
      rcases waits with begins | ⟨-, notEnds, -⟩
      · exact absurd begins notBegins
      · exact absurd ends notEnds
    · rw [same, sameError, awaited]
      refine ⟨⟨fun waits => Or.inr ⟨notBegins, notEnds, waits⟩, fun waits => ?_⟩,
        fun waits => quiet (awaited.mpr waits)⟩
      rcases waits with begins | ⟨-, -, waits⟩
      · exact absurd begins notBegins
      · exact waits

theorem loading_finishLoad (s : Session) (result : Except Fault Dataset) :
    (s.finishLoad s.generation result).loading = false := by
  have answers : (outcome s.generation result).ends s.generation := by
    cases result <;> exact decide_eq_true rfl
  have allowed : ¬ (outcome s.generation result).setsLoading := by
    cases result <;> exact Bool.false_ne_true
  rcases flags_after s allowed with ⟨begins, -, -⟩ | ⟨-, -, down⟩ | ⟨-, notEnds, -, -⟩
  · cases result <;> cases begins
  · exact down
  · exact absurd answers notEnds

/-- **The flag follows the newest load.**  If it is never set directly, the loading flag is up after
every prefix of a run exactly while the newest load is awaited, and then no error is shown; the
outcome of another load changes nothing, and that of the newest takes the flag down. -/
theorem loading_follows_newest {calls : List Call} (h : ∀ c ∈ calls, ¬ c.event.setsLoading)
    (k : Nat) :
    let run := calls.take k
    let s := callAll {} run
    (s.loading ↔ Awaited run) ∧ (s.loading → s.loadError = none) ∧
      (∀ generation result, generation ≠ s.generation → s.finishLoad generation result = s) ∧
      ∀ result, (s.finishLoad s.generation result).loading = false := by
  intro run s
  obtain ⟨awaited, quiet⟩ := loading_callAll fun c hc => h c (List.mem_of_mem_take hc)
  exact ⟨awaited, quiet, fun generation result other => s.finishLoad_stale other result,
    s.loading_finishLoad⟩

/-- the failure of a load is delivered while a later one is awaited, and then that of the later -/
theorem loading_follows_newest_superseded :
    let calls := [Call.beginLoad "a.csv", .beginLoad "b.csv", .finishLoad 1 (.error .invalidFile),
      .finishLoad 2 (.error .invalidFile)]
    (∀ c ∈ calls, ¬ c.event.setsLoading) ∧ Awaited (calls.take 3) ∧ ¬ Awaited calls ∧
      (callAll {} calls).loadError = some "Failed to parse CSV file" := by
  intro calls
  have h : ∀ c ∈ calls, ¬ c.event.setsLoading := by
    simp [calls, Call.event, outcome, Event.setsLoading]
  refine ⟨h, (loading_follows_newest h 3).1.mp rfl, fun waits => ?_, rfl⟩
  exact absurd ((loading_follows_newest h 4).1.mpr waits) (by decide)

end Session

end TableChart
