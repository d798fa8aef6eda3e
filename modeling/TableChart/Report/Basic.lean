import TableChart.CommandLine.Arguments
import TableChart.Report.Bars
import TableChart.Session

/-!
# Reports

What the program says about one file: lines for the output and lines for the errors, in their
order, and how it ends.

* `Ending`            with a chart, with a message why there is none, or in the middle of the drawing;
* `Stop`              why no chart is made;
* `overrideAxes`      axes from the command line replace the proposed ones;
* `Report.ofFile`     the report on the bytes of a file, or on the fault in reading them.
-/

namespace TableChart

inductive Line where
  | out (text : String)
  | err (text : String)
deriving DecidableEq

inductive Ending where
  | charted
  | stopped
  /-- no end that the program has chosen: the formatter gave up -/
  | broken
deriving DecidableEq

structure Report where
  lines : List Line
  ending : Ending
deriving DecidableEq

inductive Stop where
  | shown (message : String)
  | fault (f : Fault)
  | noColumn (name : String)
  | axesMissing
deriving DecidableEq

def Stop.message : Stop → String
  | shown message => message
  | fault f => f.message
  | noColumn name => "column `" ++ name ++ "` not found"
  | axesMissing => "two columns are needed for a chart (select them with -x and -y)"

namespace Report

def stopped (before : List Line) (s : Stop) : Report :=
  ⟨before ++ [.err ("Error: " ++ s.message)], .stopped⟩

/-- what is left of the formatter's own words, without the place in the program -/
def widthFault : String := "Formatting argument out of range"

def drawn (before : List Line) : Option (List String) → Report
  | some lines => ⟨before ++ lines.map .out, .charted⟩
  | none => ⟨before ++ [.err widthFault], .broken⟩

/-! ## stages -/

/-- the name under which a path is loaded -/
def nameOf (path : String) : String :=
  match baseName? path.toList with
  | some name => String.ofList name
  | none => path

def loaded (a : Arguments) (bytes : List UInt8) : Session :=
  let name := nameOf a.path
  let s := Session.beginLoad {} name
  s.finishLoad s.generation (Dataset.ofFile name bytes a.limits)

def overrideAxes (a : Arguments) (s : Session) : Except Stop Session :=
  if a.x = none ∧ a.y = none then .ok s
  else
    let axes : Axes := ⟨a.x <|> s.axes.x, a.y <|> s.axes.y⟩
    match (axes.x.toList ++ axes.y.toList).find? (· ∉ s.table.headers) with
    | some name => .error (.noColumn name)
    | none =>
      let s := s.after (.axesSelected axes)
      match s.axisError with
      | some message => .error (.shown message)
      | none => .ok s

def applyFilter (a : Arguments) (s : Session) : Session :=
  match a.filter with
  | some expression => s.after (.filterSubmitted expression)
  | none => s

def rowsLine (filtered all charted : Nat) : String :=
  "Rows: " ++ countText filtered ++ " of " ++ countText all ++ " (" ++ countText charted
    ++ " charted)"

/-- the chart of a session after lines that are said already -/
def chart (before : List Line) (limit : Nat) (s : Session) : Report :=
  let before := before
    ++ [.out ("Columns: " ++ ", ".intercalate s.table.headers),
      .out ("Numeric columns: " ++ ", ".intercalate s.numeric)]
  match s.axes with
  | ⟨some x, some y⟩ =>
    match s.series with
    | .error f => stopped before (.fault f)
    | .ok series =>
      let before := before ++ s.chartWarning.toList.map .err
      match s.filteredRecords with
      | .error f => stopped before (.fault f)
      | .ok filtered =>
        drawn
          (before
            ++ [.out (rowsLine filtered.length s.table.records.length series.points.length),
              .out ""])
          (chartLines? x y series.points limit)
  | _ => stopped before .axesMissing

def ofFile (a : Arguments) (content : Except Fault (List UInt8)) : Report :=
  match content with
  | .error f => stopped [] (.fault f)
  | .ok bytes =>
    let s := loaded a bytes
    match s.loadError with
    | some message => stopped [] (.shown message)
    | none =>
      let before := s.warning.toList.map fun w => Line.err ("Warning: " ++ w)
      match overrideAxes a s with
      | .error stop => stopped before stop
      | .ok s => chart before a.limit (applyFilter a s)

end Report

end TableChart
