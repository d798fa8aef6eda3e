import TableChart.Report.Basic

/-!
# Lines of a report

* `outputs`, `errors`             the two channels of a list of lines;
* `columnLines`, `rowsSummary`    what is said about the columns of a table, and about its rows;
* `Report.warningLines`           what is said when a file is loaded;
* `Report.summaryLines`           what is said before a chart is drawn;
* `Unfinished`                    lines that end with a message before any part of a chart;
* `BrokenOff`                     lines that end without one after the summary of the rows;
* `Report.Stops`                  a report without a chart, as every one that is stopped.
-/

namespace TableChart

/-! ## channels -/

def Line.out? : Line → Option String
  | .out s => some s
  | .err _ => none

def Line.err? : Line → Option String
  | .out _ => none
  | .err s => some s

def outputs (lines : List Line) : List String := lines.filterMap Line.out?

def errors (lines : List Line) : List String := lines.filterMap Line.err?

section
variable (l m : List Line) (s : String) (texts : List String)

@[simp] theorem outputs_append : outputs (l ++ m) = outputs l ++ outputs m := List.filterMap_append

@[simp] theorem errors_append : errors (l ++ m) = errors l ++ errors m := List.filterMap_append

@[simp] theorem outputs_nil : outputs [] = [] := rfl

@[simp] theorem outputs_err : outputs (.err s :: l) = outputs l := rfl

@[simp] theorem outputs_map_out : outputs (texts.map .out) = texts := by
  rw [outputs, List.filterMap_map]
  exact List.filterMap_some

@[simp] theorem errors_map_out : errors (texts.map .out) = [] := by
  rw [errors, List.filterMap_map]
  exact List.filterMap_eq_nil_iff.mpr fun _ _ => rfl

end

/-! ## what is said -/

/-- what is said about the columns of a table -/
def columnLines (t : Table) : List String :=
  ["Columns: " ++ ", ".intercalate t.headers,
    "Numeric columns: " ++ ", ".intercalate t.numericColumns]

def rowsSummary (filtered all : Nat) : String :=
  "Rows: " ++ countText filtered ++ " of " ++ countText all ++ " (" ++ countText filtered
    ++ " charted)"

/-- at most a warning, at most the columns of a table, and one last message -/
structure Unfinished (lines : List Line) : Prop where
  errors_eq : ∃ (warning : Option String) (message : String), errors lines =
    (warning.map ("Warning: " ++ ·)).toList ++ ["Error: " ++ message]
  outputs_eq : outputs lines = [] ∨ ∃ t, outputs lines = columnLines t

/-- warnings and the words of the formatter, which are no message, and no part of a chart -/
structure BrokenOff (t : Table) (filtered : List Record) (lines : List Line) : Prop where
  errors_eq : ∃ warnings : List String, errors lines =
    warnings.map ("Warning: " ++ ·) ++ [Report.widthFault]
  outputs_eq : outputs lines =
    columnLines t ++ [rowsSummary filtered.length t.records.length, ""]

namespace Report

/-- the lines before the chart: a warning, if there is one -/
def warningLines (s : Session) : List Line := s.warning.toList.map fun w => .err ("Warning: " ++ w)

theorem outputs_warningLines (s : Session) : outputs (warningLines s) = [] := by
  unfold warningLines
  cases s.warning <;> rfl

theorem errors_warningLines (s : Session) :
    errors (warningLines s) = (s.warning.map ("Warning: " ++ ·)).toList := by
  unfold warningLines
  cases s.warning <;> rfl

/-- the lines about the columns and about the records that are charted -/
def summaryLines (t : Table) (filtered : List Record) (q : Series) : List Line :=
  (columnLines t).map .out ++ q.warning.toList.map (fun w => .err w.message)
    ++ [.out (rowsLine filtered.length t.records.length q.points.length), .out ""]

section
variable (t : Table) (filtered : List Record) (q : Series)

theorem outputs_summaryLines : outputs (summaryLines t filtered q) =
    columnLines t ++ [rowsLine filtered.length t.records.length q.points.length, ""] := by
  unfold summaryLines
  rw [outputs_append, outputs_append, outputs_map_out]
  cases q.warning <;> rfl

/-- the only warning that a series can have -/
theorem errors_summaryLines : ∃ gaps : Option String,
    errors (summaryLines t filtered q) = (gaps.map ("Warning: " ++ ·)).toList := by
  unfold summaryLines Series.warning
  rw [errors_append, errors_append, errors_map_out]
  split
  · exact ⟨some "Some rows contain missing values", rfl⟩
  · exact ⟨none, rfl⟩

end

/-- a report without a chart -/
structure Stops (r : Report) : Prop where
  ending_eq : r.ending = .stopped
  unfinished : Unfinished r.lines

theorem stops_stopped (before : List Line) (warning : Option String) (stop : Stop)
    (he : errors before = (warning.map ("Warning: " ++ ·)).toList)
    (ho : outputs before = [] ∨ ∃ t, outputs before = columnLines t) :
    Stops (stopped before stop) := by
  refine ⟨rfl, ⟨warning, stop.message, ?_⟩, ?_⟩
  · show errors (before ++ [.err ("Error: " ++ stop.message)]) = _
    rw [errors_append, he]
    rfl
  · have silent : outputs (stopped before stop).lines = outputs before := by
      show outputs (before ++ [.err ("Error: " ++ stop.message)]) = _
      rw [outputs_append, outputs_err, outputs_nil, List.append_nil]
    rw [silent]
    exact ho

theorem lines_drawn_some (before : List Line) (lines : List String) :
    (drawn before (some lines)).lines = before ++ lines.map .out := rfl

theorem lines_drawn_none (before : List Line) :
    (drawn before none).lines = before ++ [.err widthFault] := rfl

theorem brokenOff_drawn (s : Session) (t : Table) {filtered : List Record} {q : Series}
    (each : filtered.length = q.points.length) :
    BrokenOff t filtered (drawn (warningLines s ++ summaryLines t filtered q) none).lines := by
  obtain ⟨gaps, hg⟩ := errors_summaryLines t filtered q
  rw [lines_drawn_none]
  constructor
  · refine ⟨s.warning.toList ++ gaps.toList, ?_⟩
    rw [errors_append, errors_append, errors_warningLines, hg, List.map_append,
      Option.toList_map, Option.toList_map]
    rfl
  · rw [outputs_append, outputs_append, outputs_warningLines, outputs_summaryLines, outputs_err, outputs_nil, List.nil_append, List.append_nil, ← each]
    rfl

theorem stops_stopped_nil (stop : Stop) : Stops (stopped [] stop) :=
  stops_stopped [] none stop rfl (.inl rfl)

end Report

end TableChart
