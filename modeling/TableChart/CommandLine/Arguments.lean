import TableChart.Dataset
import TableChart.Decimal.Count
import TableChart.Filter.Expression

/-!
# Command-line arguments

* `Arguments`       what a command line asks for;
* `Setting`         an option with a value, its long name and its letter;
* `UsageFault`      why a command line is not followed;
* `Draft.put`       one option with its value; no option may be given twice, and that is looked at
                    before its value is.
-/

namespace TableChart

structure Arguments where
  path : String
  filter : Option String := none
  limit : Nat := 20
  limits : RowLimits := {}
  x : Option String := none
  y : Option String := none
deriving DecidableEq

inductive Setting where
  | filter
  | limit
  | performanceCap
  | rowCap
  | xKey
  | yKey
deriving DecidableEq

namespace Setting

def all : List Setting := [filter, limit, performanceCap, rowCap, xKey, yKey]

def longName : Setting → String
  | filter => "filter"
  | limit => "limit"
  | performanceCap => "performance-cap"
  | rowCap => "row-cap"
  | xKey => "x-key"
  | yKey => "y-key"

def letter : Setting → Char
  | filter => 'f'
  | limit => 'l'
  | performanceCap => 'p'
  | rowCap => 'r'
  | xKey => 'x'
  | yKey => 'y'

def ofLongName? (name : String) : Option Setting := all.find? (·.longName == name)

def ofLetter? (c : Char) : Option Setting := all.find? (·.letter == c)

end Setting

inductive UsageFault where
  | unknownArgument
  | missingValue
  | unexpectedValue
  | rejectedValue (reason : String)
  | repeatedOption
  | emptyPath
  | missingPath
  | helpWanted
  | versionWanted
deriving DecidableEq

/-! ## drafts -/

/-- what has been given so far -/
structure Draft where
  path : Option String := none
  filter : Option String := none
  limit : Option Nat := none
  performanceCap : Option Nat := none
  rowCap : Option Nat := none
  x : Option String := none
  y : Option String := none
deriving DecidableEq

/-- the expression must read as a condition -/
def filterArgument (text : String) : Except UsageFault String :=
  match Condition.read text with
  | .ok _ => .ok text
  | .error f => .error (.rejectedValue (Fault.invalidArgument "--filter" f.message).message)

def countArgument (text : String) : Except UsageFault Nat :=
  (readCount text).mapError fun f => .rejectedValue f.message

section
variable {α : Type}

def once (given : Option α) (value : Except UsageFault α) : Except UsageFault (Option α) :=
  if given.isSome then .error .repeatedOption else value.map some

end

namespace Draft

def put (d : Draft) (setting : Setting) (text : String) : Except UsageFault Draft :=
  match setting with
  | .filter => (once d.filter (filterArgument text)).map fun v => { d with filter := v }
  | .limit => (once d.limit (countArgument text)).map fun v => { d with limit := v }
  | .performanceCap =>
    (once d.performanceCap (countArgument text)).map fun v => { d with performanceCap := v }
  | .rowCap => (once d.rowCap (countArgument text)).map fun v => { d with rowCap := v }
  | .xKey => (once d.x (.ok text)).map fun v => { d with x := v }
  | .yKey => (once d.y (.ok text)).map fun v => { d with y := v }

def putPath (d : Draft) (path : String) : Except UsageFault Draft :=
  if path = "" then .error .emptyPath else .ok { d with path := some path }

/-- what was not given has its default -/
def toArguments (d : Draft) : Except UsageFault Arguments :=
  match d.path with
  | none => .error .missingPath
  | some path =>
    let standard : Arguments := { path }
    .ok
      { path
        filter := d.filter
        limit := d.limit.getD standard.limit
        limits := ⟨d.rowCap.getD standard.limits.cap,
          d.performanceCap.getD standard.limits.warnAbove⟩
        x := d.x
        y := d.y }

end Draft

end TableChart
