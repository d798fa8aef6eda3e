import TableChart.Proofs.Session.Step

/-!
# Loads that overlap

A session is driven by calls.  A load begins, the outcome of a load is delivered (late, twice or
never, and for any generation), or some other event happens.

* `Call`               one call, and the event that it is handled as;
* `Session.callAll`    the session after a run; `Session.trace` has the session after every call;
* `Session.issued`     the generations that the loads of a run are given;
* `withoutStale`       a run without its stale outcomes: an outcome is stale if its generation is
                       not the number of loads that began before it.

The generation of a session counts the loads that have begun (`generation_callAll`), so what is
deleted from a run is what the session drops by itself (`after_stale`).
-/

namespace TableChart

/-! ## events -/

namespace Event

def begins : Event → Bool
  | .fileSelected _ => true
  | _ => false

/-- the generation that an outcome is for -/
def target? : Event → Option Nat
  | .dataLoaded generation _ | .loadFailed generation _ => some generation
  | _ => none

/-- an outcome of another load than the newest of `loads` -/
def staleAfter (loads : Nat) (e : Event) : Bool := e.target?.any (· ≠ loads)

end Event

namespace Session

/-- only the start of a load changes the generation, a reset keeps it -/
theorem generation_after (s : Session) (e : Event) :
    (s.after e).generation = s.generation + e.begins.toNat := by
  cases e with
  | fileSelected name => rfl
  | dataLoaded generation data =>
    rcases s.after_dataLoaded_cases generation data with ⟨-, e⟩ | ⟨-, e⟩ <;> rw [e]
    · exact generation_checked _
    · rfl
  | loadFailed generation message =>
    rcases s.after_loadFailed_cases generation message with ⟨-, e⟩ | ⟨-, e⟩ <;> rw [e] <;> rfl
  | axesSelected axes => exact generation_checked _
  | loadingSet loading => rfl
  | warningSet warning => rfl
  | filterSubmitted expression =>
    rcases s.after_filterSubmitted_cases expression with ⟨message, e⟩ | e <;> rw [e]
    · rfl
    · exact generation_checked _
  | reset => rfl

theorem after_stale (s : Session) (e : Event) (h : e.staleAfter s.generation) : s.after e = s := by
  cases e with
  | dataLoaded generation data =>
    have ne : generation ≠ s.generation := by simpa [Event.staleAfter, Event.target?] using h
    exact if_neg ne
  | loadFailed generation message =>
    have ne : generation ≠ s.generation := by simpa [Event.staleAfter, Event.target?] using h
    exact if_neg ne
  | _ => simp [Event.staleAfter, Event.target?] at h

theorem finishLoad_stale (s : Session) {generation : Nat} (h : generation ≠ s.generation)
    (result : Except Fault Dataset) : s.finishLoad generation result = s := by
  apply after_stale
  cases result <;> simpa [outcome, Event.staleAfter, Event.target?] using h

end Session

/-! ## calls -/

inductive Call where
  | beginLoad (name : String)
  | finishLoad (generation : Nat) (result : Except Fault Dataset)
  | dispatch (event : Event)

def Call.event : Call → Event
  | .beginLoad name => .fileSelected name
  | .finishLoad generation result => Session.outcome generation result
  | .dispatch event => event

def Call.begins (c : Call) : Bool := c.event.begins

/-- a place in a run that is one call longer: it is the last one, or a place in the shorter run -/
theorem concat_eq_cases {calls before since : List Call} {c d : Call}
    (h : calls ++ [d] = before ++ c :: since) :
    (before = calls ∧ c = d ∧ since = []) ∨
      ∃ earlier, since = earlier ++ [d] ∧ calls = before ++ c :: earlier := by
  rcases List.eq_nil_or_concat since with rfl | ⟨earlier, last, rfl⟩
  · obtain ⟨rfl, same⟩ := List.append_inj' h rfl
    obtain ⟨rfl, -⟩ := List.cons.inj same
    exact Or.inl ⟨rfl, rfl, rfl⟩
  · rw [List.concat_eq_append, ← List.cons_append, ← List.append_assoc] at h
    obtain ⟨rfl, same⟩ := List.append_inj' h rfl
    obtain ⟨rfl, -⟩ := List.cons.inj same
    exact Or.inr ⟨earlier, List.concat_eq_append, rfl⟩

namespace Session

def call (s : Session) : Call → Session
  | .beginLoad name => s.beginLoad name
  | .finishLoad generation result => s.finishLoad generation result
  | .dispatch event => s.after event

theorem call_eq_after (s : Session) (c : Call) : s.call c = s.after c.event := by
  cases c <;> rfl

theorem call_stale {s : Session} {c : Call} (h : c.event.staleAfter s.generation) :
    s.call c = s := by
  rw [call_eq_after, after_stale s _ h]

theorem generation_call (s : Session) (c : Call) :
    (s.call c).generation = s.generation + c.begins.toNat := by
  rw [call_eq_after, generation_after]
  rfl

def callAll (s : Session) (calls : List Call) : Session := calls.foldl call s

def trace (s : Session) : List Call → List (Call × Session)
  | [] => []
  | c :: cs => (c, s.call c) :: (s.call c).trace cs

/-- a load is given the generation of the session that it leaves -/
def issued (s : Session) (calls : List Call) : List Nat :=
  (s.trace calls).filterMap fun (c, t) => if c.begins then some t.generation else none

theorem callAll_cons (s : Session) (c : Call) (cs : List Call) :
    s.callAll (c :: cs) = (s.call c).callAll cs := rfl

theorem callAll_append (s : Session) (cs ds : List Call) :
    s.callAll (cs ++ ds) = (s.callAll cs).callAll ds := List.foldl_append

theorem callAll_concat (s : Session) (cs : List Call) (c : Call) :
    s.callAll (cs ++ [c]) = (s.callAll cs).after c.event := by
  rw [callAll_append]
  exact call_eq_after _ c

theorem trace_cons (s : Session) (c : Call) (cs : List Call) :
    s.trace (c :: cs) = (c, s.call c) :: (s.call c).trace cs := rfl

/-- the generation counts the loads -/
theorem generation_callAll (s : Session) (calls : List Call) :
    (s.callAll calls).generation = s.generation + calls.countP Call.begins := by
  induction calls generalizing s with
  | nil => rfl
  | cons c cs ih =>
    rw [callAll_cons, ih, generation_call, List.countP_cons]
    cases c.begins with
    | false => rfl
    | true =>
      show s.generation + 1 + cs.countP Call.begins = s.generation + (cs.countP Call.begins + 1)
      omega

theorem generation_callAll_of_none_begins (s : Session) {calls : List Call}
    (h : ∀ c ∈ calls, ¬ c.begins) : (s.callAll calls).generation = s.generation := by
  rw [generation_callAll, List.countP_eq_zero.mpr h]
  rfl

theorem generation_last_begun (before : List Call) (c : Call) {since : List Call}
    (h : ∀ d ∈ since, ¬ d.begins) :
    (callAll {} (before ++ c :: since)).generation = (callAll {} (before ++ [c])).generation := by
  rw [callAll_append, callAll_append, callAll_cons, callAll_cons,
    generation_callAll_of_none_begins _ h]
  rfl

theorem issued_eq_range' (s : Session) (calls : List Call) :
    s.issued calls = List.range' (s.generation + 1) (calls.countP Call.begins) := by
  induction calls generalizing s with
  | nil => rfl
  | cons c cs ih =>
    have hg := generation_call s c
    have step : s.issued (c :: cs)
        = (if c.begins then [(s.call c).generation] else []) ++ (s.call c).issued cs := by
      unfold issued
      rw [trace_cons]
      cases hb : c.begins <;> simp [hb]
    rw [step, ih, hg, List.countP_cons]
    cases c.begins with
    | false => rfl
    | true => exact (List.range'_succ ..).symm

theorem le_of_mem_issued {calls : List Call} {generation : Nat}
    (h : generation ∈ issued {} calls) : generation ≤ calls.countP Call.begins := by
  rw [issued_eq_range', List.mem_range'_1] at h
  have below : generation < 0 + 1 + calls.countP Call.begins := h.2
  omega

end Session

/-! ## stale outcomes -/

section
variable {α : Type} (event : α → Event)

/-- the stale outcomes of a run deleted, where `loads` loads began before it -/
def withoutStale (loads : Nat) : List α → List α
  | [] => []
  | a :: as =>
    if (event a).staleAfter loads then withoutStale loads as
    else a :: withoutStale (loads + (event a).begins.toNat) as

theorem withoutStale_of_stale {loads : Nat} {a : α} (as : List α)
    (h : (event a).staleAfter loads) :
    withoutStale event loads (a :: as) = withoutStale event loads as := if_pos h

theorem withoutStale_of_current {loads : Nat} {a : α} (as : List α)
    (h : ¬ (event a).staleAfter loads) :
    withoutStale event loads (a :: as)
      = a :: withoutStale event (loads + (event a).begins.toNat) as := if_neg h

end

namespace Session

/-- without its stale outcomes a run goes through the same sessions -/
theorem trace_withoutStale (s : Session) (calls : List Call) :
    s.trace (withoutStale Call.event s.generation calls)
      = withoutStale (fun entry => entry.1.event) s.generation (s.trace calls) := by
  induction calls generalizing s with
  | nil => rfl
  | cons c cs ih =>
    rw [trace_cons]
    by_cases h : c.event.staleAfter s.generation
    · rw [withoutStale_of_stale Call.event cs h, call_stale h,
        withoutStale_of_stale (fun entry : Call × Session => entry.1.event) (a := (c, s)) _ h]
      exact ih s
    · have hg : (s.call c).generation = s.generation + c.event.begins.toNat := generation_call s c
      rw [withoutStale_of_current Call.event cs h, trace_cons,
        withoutStale_of_current (fun entry : Call × Session => entry.1.event) (a := (c, s.call c))
          _ h, ← hg, ih]

theorem callAll_withoutStale (s : Session) (calls : List Call) :
    s.callAll (withoutStale Call.event s.generation calls) = s.callAll calls := by
  induction calls generalizing s with
  | nil => rfl
  | cons c cs ih =>
    rw [callAll_cons]
    by_cases h : c.event.staleAfter s.generation
    · rw [withoutStale_of_stale _ _ h, call_stale h]
      exact ih s
    · have hg : (s.call c).generation = s.generation + c.event.begins.toNat := generation_call s c
      rw [withoutStale_of_current _ _ h, callAll_cons, ← hg]
      exact ih (s.call c)

/-- **The newest load wins.**  After every prefix of a run the generation is the number of loads
begun, so loads are given increasing generations; deleting the stale outcomes leaves the session
after every other call as it is; runs that differ in their stale outcomes alone end alike. -/
theorem newest_load_wins (calls : List Call) :
    (∀ k, (callAll {} (calls.take k)).generation = (calls.take k).countP Call.begins) ∧
    (issued {} calls).Pairwise (· < ·) ∧
    trace {} (withoutStale Call.event 0 calls)
      = withoutStale (fun entry => entry.1.event) 0 (trace {} calls) ∧
    ∀ others, withoutStale Call.event 0 others = withoutStale Call.event 0 calls →
      callAll {} others = callAll {} calls := by
  refine ⟨fun k => ?_, ?_, trace_withoutStale {} calls, fun others h => ?_⟩
  · rw [generation_callAll]
    exact Nat.zero_add _
  · rw [issued_eq_range']
    exact List.pairwise_lt_range'
  · rw [← callAll_withoutStale {} others, ← callAll_withoutStale {} calls]
    exact congrArg (callAll {}) h

/-- the failure of the first load is delivered after the data of the second, or twice before it -/
theorem newest_load_wins_of_reordered :
    let data : Dataset := { table := ⟨["x"], [⟨[("x", "1")]⟩]⟩ }
    let late := [Call.beginLoad "a.csv", .beginLoad "b.csv", .finishLoad 2 (.ok data),
      .finishLoad 1 (.error .invalidFile)]
    let early := [Call.beginLoad "a.csv", .beginLoad "b.csv", .finishLoad 1 (.error .invalidFile),
      .finishLoad 1 (.error .invalidFile), .finishLoad 2 (.ok data)]
    withoutStale Call.event 0 early = withoutStale Call.event 0 late ∧
      callAll {} early = callAll {} late :=
  ⟨rfl, (newest_load_wins _).2.2.2 _ rfl⟩

end Session

end TableChart
