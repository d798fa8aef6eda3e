import TableChart.Session
import TableChart.Proofs.Filter.Selection

/-!
# What a session derives from its data

The numeric columns and the two messages about the chart are stored, although they follow from the
table, the axes and the filter.

* `axisMessage`, `chartMessage`   what a chart, or its fault, has to be told;
* `Session.Derived`               the stored fields are what would be derived now, and the filter
                                  was accepted;
* `Derived.after`                 every event keeps this: it leaves alone all that the chart is
                                  drawn from, or makes the messages new, or starts from nothing.
-/

namespace TableChart

theorem Axes.check_error {axes : Axes} {numeric : List String} {f : Fault}
    (h : axes.check numeric = .error f) : f = .sameAxes ∨ f = .nonNumericAxis := by
  unfold Axes.check at h
  split at h
  · split at h
    · cases h
      exact Or.inl rfl
    · split at h
      · cases h
      · cases h
        exact Or.inr rfl
  · cases h

namespace Session

/-! ## messages -/

def axisMessage : Except Fault Series → Option String
  | .ok _ => none
  | .error f => if f.kind = .axes then some f.message else none

def chartMessage : Except Fault Series → Option String
  | .ok q => q.warning.map (·.message)
  | .error _ => none

theorem checked_eq (s : Session) :
    s.checked
      = { s with axisError := axisMessage s.series, chartWarning := chartMessage s.series } := by
  unfold checked
  cases s.series <;> rfl

/-- the messages are no part of what the chart is drawn from -/
@[simp] theorem series_checked (s : Session) : s.checked.series = s.series := by
  rw [checked_eq]
  rfl

/-! ## the chart under an accepted filter -/

theorem filteredRecords_of_accepted {s : Session} (h : filterFault? s.filter = none) :
    ∃ keep : Record → Bool, s.filteredRecords = .ok (s.table.records.filter keep) := by
  obtain ⟨keep, hk⟩ := selectRecords_of_accepted h s.table.records
  refine ⟨keep, ?_⟩
  unfold filteredRecords
  rw [hk]
  rfl

/-- the axes may be refused, and nothing else can be wrong -/
theorem series_error {s : Session} {f : Fault} (h : filterFault? s.filter = none)
    (hs : s.series = .error f) : f = .sameAxes ∨ f = .nonNumericAxis := by
  obtain ⟨keep, hk⟩ := filteredRecords_of_accepted h
  unfold series at hs
  cases hc : s.axes.check s.numeric with
  | error g =>
    rw [hc] at hs
    cases hs
    exact Axes.check_error hc
  | ok u =>
    obtain ⟨x, y, haxes⟩ : ∃ x y, s.axes = ⟨x, y⟩ := ⟨_, _, rfl⟩
    rw [hc, hk, haxes] at hs
    cases x with
    | none => cases hs
    | some x =>
      cases y with
      | none => cases hs
      | some y => cases hs

/-! ## the invariant -/

structure Derived (s : Session) : Prop where
  numeric_eq : s.numeric = s.table.numericColumns
  accepted : filterFault? s.filter = none
  axisError_eq : s.axisError = axisMessage s.series
  chartWarning_eq : s.chartWarning = chartMessage s.series

/-- after the check the messages are right, whatever they were -/
theorem derived_checked {s : Session} (hn : s.numeric = s.table.numericColumns)
    (hf : filterFault? s.filter = none) : Derived s.checked := by
  have hs : s.checked.series = s.series := series_checked s
  refine ⟨?_, ?_, ?_, ?_⟩
  · rw [numeric_checked, table_checked]
    exact hn
  · rw [filter_checked]
    exact hf
  · rw [hs, checked_eq]
  · rw [hs, checked_eq]

theorem derived_new (generation : Nat) : Derived { generation } :=
  ⟨rfl, rfl, rfl, rfl⟩

namespace Derived
variable {s : Session}

/-- the chart is not drawn from these fields -/
theorem frame (h : Derived s) (file : Option String) (loading : Bool) (generation : Nat)
    (loadError warning filterError : Option String) :
    Derived { s with file, loading, generation, loadError, warning, filterError } :=
  ⟨h.numeric_eq, h.accepted, h.axisError_eq, h.chartWarning_eq⟩

theorem after (h : Derived s) (e : Event) : Derived (s.after e) := by
  cases e with
  | fileSelected name => exact h.frame ..
  | dataLoaded generation data =>
    show Derived (if generation = s.generation then s.showDataset data else s)
    split
    · exact derived_checked rfl rfl
    · exact h
  | loadFailed generation message =>
    show Derived (if generation = s.generation then _ else s)
    split
    · exact h.frame ..
    · exact h
  | axesSelected axes => exact derived_checked h.numeric_eq h.accepted
  | loadingSet loading => exact h.frame ..
  | warningSet warning => exact h.frame ..
  | filterSubmitted expression =>
    show Derived (s.submitFilter expression)
    unfold submitFilter
    cases hf : filterFault? expression with
    | some f => exact h.frame ..
    | none => exact derived_checked h.numeric_eq hf
  | reset => exact derived_new s.generation

theorem afterAll (h : Derived s) (events : List Event) : Derived (s.afterAll events) := by
  induction events generalizing s with
  | nil => exact h
  | cons e es ih => exact ih (h.after e)

theorem checked_eq_self (h : Derived s) : s.checked = s := by
  rw [checked_eq, ← h.axisError_eq, ← h.chartWarning_eq]

theorem axisError_eq_none_iff (h : Derived s) :
    s.axisError = none ↔ ∃ q, s.series = .ok q := by
  rw [h.axisError_eq]
  cases hs : s.series with
  | ok q => simp [axisMessage]
  | error f =>
    rcases series_error h.accepted hs with rfl | rfl <;> simp [axisMessage, Fault.kind]

/-- the two refusals have different texts, so the text tells which it is -/
theorem series_error_iff (h : Derived s) (f : Fault) :
    s.series = .error f ↔
      (f = .sameAxes ∨ f = .nonNumericAxis) ∧ s.axisError = some f.message := by
  rw [h.axisError_eq]
  cases hs : s.series with
  | ok q => simp [axisMessage]
  | error g =>
    constructor
    · intro e
      cases e
      have hg := series_error h.accepted hs
      refine ⟨hg, ?_⟩
      rcases hg with rfl | rfl <;> rfl
    · rintro ⟨hf, hm⟩
      have hg := series_error h.accepted hs
      rcases hf with rfl | rfl <;> rcases hg with rfl | rfl <;>
        first
        | rfl
        | exact absurd hm (by decide)

theorem chartWarning_isSome_iff (h : Derived s) :
    s.chartWarning.isSome ↔ ∃ q, s.series = .ok q ∧ 0 < q.missing := by
  rw [h.chartWarning_eq]
  cases s.series with
  | error f => simp [chartMessage]
  | ok q =>
    by_cases hq : 0 < q.missing <;> simp [chartMessage, Series.warning, hq]

end Derived

/-- **Nothing derived is ever out of date.**  After every run the numeric columns are those of the
table, the filter selects without fault, the axis message is the text of the fault of the chart,
which is one of two, and a chart warning stands for empty cells that are charted. -/
theorem derived_never_stale (events : List Event) :
    let s := Session.afterAll {} events
    s.numeric = s.table.numericColumns ∧
    (isBlankText s.filter ∨ ∃ c, Condition.read s.filter = .ok c) ∧
    (∃ records, s.filteredRecords = .ok records) ∧
    (∀ f, s.series = .error f ↔
      (f = .sameAxes ∨ f = .nonNumericAxis) ∧ s.axisError = some f.message) ∧
    (s.axisError = none ↔ ∃ q, s.series = .ok q) ∧
    (s.chartWarning.isSome ↔ ∃ q, s.series = .ok q ∧ 0 < q.missing) ∧
    s.checked = s := by
  intro s
  have h : Derived s := (derived_new 0).afterAll events
  obtain ⟨keep, hk⟩ := filteredRecords_of_accepted h.accepted
  exact ⟨h.numeric_eq, (filterFault?_eq_none_iff _).mp h.accepted, ⟨_, hk⟩, h.series_error_iff,
    h.axisError_eq_none_iff, h.chartWarning_isSome_iff, h.checked_eq_self⟩

end Session

end TableChart
