import Mathlib.Data.List.Induction
import TableChart.Proofs.Session.Derived
import TableChart.Proofs.Session.Step

/-!
# Choices about the chart

Axes are selected and filters submitted in any order and as often as one likes.

* `Choice`                 one of the two, and the event that it is handled as;
* `settled`                what is left of several choices: the last axes, then the last filter that
                           was accepted, then the last filter of all if it was refused;
* `chooseAll_separate`     axes and filters do not get in each other's way;
* `chooseAll_axes`, `chooseAll_filters`   of axes the last count, of filters the settled ones.

No session has to be in order beforehand: the messages about the chart are made from everything but
themselves, so nothing is left of what they were (`checked_messages`).
-/

namespace TableChart

/-! ## choices -/

inductive Choice where
  | axes (axes : Axes)
  | filter (expression : String)

def Choice.event : Choice → Event
  | .axes a => .axesSelected a
  | .filter e => .filterSubmitted e

def axesOf (choices : List Choice) : List Axes :=
  choices.filterMap fun
    | .axes a => some a
    | .filter _ => none

def filtersOf (choices : List Choice) : List String :=
  choices.filterMap fun
    | .axes _ => none
    | .filter e => some e

/-- a blank expression is accepted too -/
def isAccepted (expression : String) : Bool := (filterFault? expression).isNone

/-- the last accepted filter, and the last of all if it was refused -/
def settledFilters (expressions : List String) : List String :=
  (expressions.filter isAccepted).getLast?.toList
    ++ (expressions.getLast?.filter fun e => !isAccepted e).toList

def settled (choices : List Choice) : List Choice :=
  (axesOf choices).getLast?.toList.map .axes ++ (settledFilters (filtersOf choices)).map .filter

theorem settledFilters_accepted (expressions : List String) {e : String} (h : isAccepted e) :
    settledFilters (expressions ++ [e]) = [e] := by
  unfold settledFilters
  rw [List.filter_append, List.filter_cons_of_pos h, List.filter_nil, List.getLast?_concat,
    List.getLast?_concat]
  simp [h]

theorem settledFilters_refused (expressions : List String) {e : String} (h : ¬ isAccepted e) :
    settledFilters (expressions ++ [e])
      = (expressions.filter isAccepted).getLast?.toList ++ [e] := by
  unfold settledFilters
  rw [List.filter_append, List.filter_cons_of_neg h, List.filter_nil, List.append_nil,
    List.getLast?_concat]
  simp [h]

namespace Session

def choose (s : Session) (c : Choice) : Session := s.after c.event

def chooseAll (s : Session) (choices : List Choice) : Session := choices.foldl choose s

theorem chooseAll_eq_afterAll (s : Session) (choices : List Choice) :
    s.chooseAll choices = s.afterAll (choices.map Choice.event) := by
  rw [afterAll, List.foldl_map]
  rfl

/-! ## two choices -/

section
variable (s : Session)

theorem checked_messages (axisError chartWarning : Option String) :
    checked { s with axisError, chartWarning } = s.checked := by
  rw [checked_eq, checked_eq]
  rfl

theorem choose_axes (a : Axes) : s.choose (.axes a) = checked { s with axes := a } := rfl

theorem choose_accepted {e : String} (h : isAccepted e) :
    s.choose (.filter e) = checked { s with filter := e, filterError := none } :=
  s.after_accepted (Option.isNone_iff_eq_none.mp h)

theorem choose_refused {e : String} (h : ¬ isAccepted e) :
    s.choose (.filter e) = { s with filterError := (filterFault? e).map (·.message) } := by
  cases refused : filterFault? e with
  | none => exact absurd (Option.isNone_iff_eq_none.mpr refused) h
  | some f => exact s.after_refused refused

theorem axes_overwritten (a b : Axes) :
    (s.choose (.axes a)).choose (.axes b) = s.choose (.axes b) := by
  rw [choose_axes, choose_axes, choose_axes, checked_eq { s with axes := a }]
  exact checked_messages { s with axes := b } _ _

/-- an accepted filter leaves no trace of the one before, be it accepted or refused -/
theorem filter_overwritten (d : String) {e : String} (h : isAccepted e) :
    (s.choose (.filter d)).choose (.filter e) = s.choose (.filter e) := by
  rw [choose_accepted _ h, choose_accepted _ h]
  by_cases hd : isAccepted d
  · rw [choose_accepted s hd, checked_eq { s with filter := d, filterError := none }]
    exact checked_messages { s with filter := e, filterError := none } _ _
  · rw [choose_refused s hd]

theorem refusal_overwritten {d e : String} (hd : ¬ isAccepted d) (he : ¬ isAccepted e) :
    (s.choose (.filter d)).choose (.filter e) = s.choose (.filter e) := by
  rw [choose_refused _ he, choose_refused _ he, choose_refused _ hd]

theorem axes_filter_comm (a : Axes) (e : String) :
    (s.choose (.axes a)).choose (.filter e) = (s.choose (.filter e)).choose (.axes a) := by
  rw [choose_axes, choose_axes]
  by_cases h : isAccepted e
  · rw [choose_accepted _ h, choose_accepted _ h, checked_eq { s with axes := a },
      checked_eq { s with filter := e, filterError := none }]
    exact (checked_messages { s with axes := a, filter := e, filterError := none } _ _).trans
      (checked_messages { s with axes := a, filter := e, filterError := none } _ _).symm
  · rw [choose_refused _ h, choose_refused _ h, checked_eq, checked_eq]
    rfl

end

/-! ## many choices -/

theorem chooseAll_append (s : Session) (cs ds : List Choice) :
    s.chooseAll (cs ++ ds) = (s.chooseAll cs).chooseAll ds := List.foldl_append

theorem filter_past_axes (s : Session) (as : List Axes) (e : String) :
    (s.choose (.filter e)).chooseAll (as.map .axes)
      = (s.chooseAll (as.map .axes)).choose (.filter e) := by
  induction as generalizing s with
  | nil => rfl
  | cons a as ih =>
    show ((s.choose (.filter e)).choose (.axes a)).chooseAll (as.map .axes) = _
    rw [← axes_filter_comm, ih]
    rfl

/-- all axes may be selected before any filter is submitted -/
theorem chooseAll_separate (s : Session) (choices : List Choice) :
    s.chooseAll choices
      = (s.chooseAll ((axesOf choices).map .axes)).chooseAll ((filtersOf choices).map .filter) := by
  induction choices generalizing s with
  | nil => rfl
  | cons c cs ih =>
    cases c with
    | axes a => exact ih (s.choose (.axes a))
    | filter e =>
      have later : s.chooseAll (.filter e :: cs) = (s.choose (.filter e)).chooseAll cs := rfl
      rw [later, ih, filter_past_axes]
      rfl

theorem earlier_axes_overwritten (s : Session) (as : List Axes) (a : Axes) :
    (s.chooseAll (as.map .axes)).choose (.axes a) = s.choose (.axes a) := by
  induction as generalizing s with
  | nil => rfl
  | cons b as ih => exact (ih (s.choose (.axes b))).trans (axes_overwritten s b a)

theorem chooseAll_axes (s : Session) (as : List Axes) :
    s.chooseAll (as.map .axes) = s.chooseAll (as.getLast?.toList.map .axes) := by
  rcases List.eq_nil_or_concat as with rfl | ⟨bs, a, rfl⟩
  · rfl
  · rw [List.concat_eq_append, List.getLast?_concat, List.map_append, chooseAll_append]
    exact earlier_axes_overwritten s bs a

theorem earlier_filters_overwritten (s : Session) (es : List String) {e : String}
    (h : isAccepted e) :
    (s.chooseAll (es.map .filter)).choose (.filter e) = s.choose (.filter e) := by
  induction es generalizing s with
  | nil => rfl
  | cons d es ih => exact (ih (s.choose (.filter d))).trans (filter_overwritten s d h)

theorem chooseAll_filters (s : Session) (es : List String) :
    s.chooseAll (es.map .filter) = s.chooseAll ((settledFilters es).map .filter) := by
  induction es using List.reverseRecOn with
  | nil => rfl
  | append_singleton es e ih =>
    rw [List.map_append, chooseAll_append]
    by_cases h : isAccepted e
    · rw [settledFilters_accepted es h]
      exact earlier_filters_overwritten s es h
    · rw [settledFilters_refused es h, ih, settledFilters, List.map_append, List.map_append,
        chooseAll_append, chooseAll_append]
      -- of two refusals in a row only the later one is told
      cases last : es.getLast?.filter fun e => !isAccepted e with
      | none => rfl
      | some d =>
        have hd : ¬ isAccepted d := by simpa using (Option.filter_eq_some_iff.mp last).2
        exact refusal_overwritten _ hd h

/-- **Of all choices only the last ones count.**  Whatever the session, several choices come to the
same as the settled ones; axes and filters may be exchanged; and an accepted filter leaves no trace
of the attempts before it. -/
theorem last_choices_count (s : Session) :
    (∀ choices : List Choice, s.afterAll (choices.map Choice.event)
      = s.afterAll ((settled choices).map Choice.event)) ∧
    (∀ axes expression, (s.after (.axesSelected axes)).after (.filterSubmitted expression)
      = (s.after (.filterSubmitted expression)).after (.axesSelected axes)) ∧
    ∀ (attempts : List String) (expression : String), filterFault? expression = none →
      (s.afterAll (attempts.map .filterSubmitted)).after (.filterSubmitted expression)
        = s.after (.filterSubmitted expression) := by
  refine ⟨fun choices => ?_, s.axes_filter_comm, fun attempts expression accepted => ?_⟩
  · rw [← chooseAll_eq_afterAll, ← chooseAll_eq_afterAll, chooseAll_separate, chooseAll_axes,
      chooseAll_filters, ← chooseAll_append]
    rfl
  · have tried :
        s.afterAll (attempts.map .filterSubmitted) = s.chooseAll (attempts.map .filter) := by
      rw [chooseAll_eq_afterAll, List.map_map]
      rfl
    rw [tried]
    exact s.earlier_filters_overwritten attempts (Option.isNone_iff_eq_none.mpr accepted)

/-- a session with a message that its chart does not have, and a filter that is refused at first -/
theorem last_choices_count_after_refusal :
    let s : Session := { axisError := some "Selected columns must be numeric" }
    filterFault? "name ~ x" = some (.malformed "name ~ x") ∧ filterFault? "name == x" = none ∧
      (s.afterAll [.filterSubmitted "name ~ x"]).after (.filterSubmitted "name == x")
        = s.after (.filterSubmitted "name == x") := by
  intro s
  have accepted : filterFault? "name == x" = none := by decide
  exact ⟨by decide, accepted, s.last_choices_count.2.2 ["name ~ x"] _ accepted⟩

end Session

end TableChart
