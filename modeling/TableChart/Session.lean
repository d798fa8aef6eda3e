import TableChart.Axes
import TableChart.Dataset
import TableChart.Filter.Expression
import TableChart.NumericColumns
import TableChart.Series

/-!
# Charting sessions

A session shows one dataset at a time.  Every load gets a generation, and what arrives for another
generation than the newest is dropped.

* `Session`            all that is shown;
* `Session.series`     the chart of the selected axes over the records that pass the filter;
* `Session.checked`    the session with the messages about its chart made new;
* `Event`              what can happen;
* `Session.after`      the session after an event; `Session.afterAll` after several.
-/

namespace TableChart

structure Session where
  file : Option String := none
  table : Table := {}
  numeric : List String := []
  axes : Axes := {}
  filter : String := ""
  loading : Bool := false
  generation : Nat := 0
  loadError : Option String := none
  warning : Option String := none
  axisError : Option String := none
  chartWarning : Option String := none
  filterError : Option String := none
deriving DecidableEq

inductive Event where
  | fileSelected (name : String)
  | dataLoaded (generation : Nat) (data : Dataset)
  | loadFailed (generation : Nat) (message : String)
  | axesSelected (axes : Axes)
  | loadingSet (loading : Bool)
  | warningSet (warning : Option String)
  | filterSubmitted (expression : String)
  | reset
deriving DecidableEq

namespace Session

/-! ## views -/

def filteredRecords (s : Session) : Except Fault (List Record) :=
  (selectRecords s.table.records s.filter).mapError FilterFault.toFault

/-- no points while an axis is missing -/
def series (s : Session) : Except Fault Series := do
  s.axes.check s.numeric
  match s.axes with
  | ⟨some x, some y⟩ => return Series.ofRecords (← s.filteredRecords) x y
  | _ => return {}

/-- a refused pair of axes is shown, any other fault leaves both messages empty -/
def checked (s : Session) : Session :=
  match s.series with
  | .ok series => { s with axisError := none, chartWarning := series.warning.map (·.message) }
  | .error f =>
    { s with axisError := if f.kind = .axes then some f.message else none, chartWarning := none }

@[simp] theorem file_checked (s : Session) : s.checked.file = s.file := by
  unfold checked; split <;> rfl

@[simp] theorem table_checked (s : Session) : s.checked.table = s.table := by
  unfold checked; split <;> rfl

@[simp] theorem numeric_checked (s : Session) : s.checked.numeric = s.numeric := by
  unfold checked; split <;> rfl

@[simp] theorem axes_checked (s : Session) : s.checked.axes = s.axes := by
  unfold checked; split <;> rfl

@[simp] theorem filter_checked (s : Session) : s.checked.filter = s.filter := by
  unfold checked; split <;> rfl

@[simp] theorem loading_checked (s : Session) : s.checked.loading = s.loading := by
  unfold checked; split <;> rfl

@[simp] theorem generation_checked (s : Session) : s.checked.generation = s.generation := by
  unfold checked; split <;> rfl

@[simp] theorem loadError_checked (s : Session) : s.checked.loadError = s.loadError := by
  unfold checked; split <;> rfl

/-! ## events -/

def showDataset (s : Session) (data : Dataset) : Session :=
  let numeric := data.table.numericColumns
  checked
    { s with
      table := data.table
      numeric
      axes := Axes.proposed numeric
      filter := ""
      loading := false
      loadError := none
      warning := data.primaryWarning.map (·.message)
      filterError := none }

/-- a refused expression leaves the filter as it is -/
def submitFilter (s : Session) (expression : String) : Session :=
  match filterFault? expression with
  | some f => { s with filterError := some f.message }
  | none => checked { s with filter := expression, filterError := none }

def after (s : Session) : Event → Session
  | .fileSelected name =>
    { s with
      file := some name
      loading := true
      generation := s.generation + 1
      loadError := none }
  | .dataLoaded generation data => if generation = s.generation then s.showDataset data else s
  | .loadFailed generation message =>
    if generation = s.generation then { s with loading := false, loadError := some message } else s
  | .axesSelected axes => checked { s with axes }
  | .loadingSet loading => { s with loading }
  | .warningSet warning => { s with warning }
  | .filterSubmitted expression => s.submitFilter expression
  | .reset => { generation := s.generation }

def afterAll (s : Session) (events : List Event) : Session := events.foldl after s

/-! ## loads -/

def beginLoad (s : Session) (name : String) : Session := s.after (.fileSelected name)

/-- the event that the outcome of a load is -/
def outcome (generation : Nat) : Except Fault Dataset → Event
  | .ok data => .dataLoaded generation data
  | .error f => .loadFailed generation f.message

def finishLoad (s : Session) (generation : Nat) (result : Except Fault Dataset) : Session :=
  s.after (outcome generation result)

end Session

end TableChart
