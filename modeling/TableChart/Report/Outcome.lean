import TableChart.CommandLine.Reading
import TableChart.CommandLine.Usage
import TableChart.File.Disk
import TableChart.Report.Basic

/-!
# Outcomes

What a run of the program leaves behind: lines and an exit status, `0` if there is a chart or the
line that was asked for, `1` if there is no chart, `2` if the command line cannot be followed and
`101` if the drawing of a chart breaks off.

* `Ending.status`   the status for the end of a report;
* `Outcome.run`     the run for a command line on a disk.
-/

namespace TableChart

structure Outcome where
  lines : List Line
  status : Nat
deriving DecidableEq

/-- The last one is that of a build that unwinds; one that aborts is ended by a signal there. -/
def Ending.status : Ending → Nat
  | charted => 0
  | stopped => 1
  | broken => 101

namespace Outcome

def ofReport (r : Report) : Outcome := ⟨r.lines, r.ending.status⟩

def ofUsageFault (f : UsageFault) : Outcome :=
  if f.isRequest then ⟨[.out f.message], 0⟩ else ⟨[.err ("error: " ++ f.message)], 2⟩

def run (disk : Disk) (words : List String) : Outcome :=
  match Arguments.read words with
  | .ok a => ofReport (Report.ofFile a ((disk.read a.path).mapError ReadFault.toFault))
  | .error f => ofUsageFault f

/-! ## channels -/

def text (keep : Line → Option String) (o : Outcome) : String :=
  String.join ((o.lines.filterMap keep).map (· ++ "\n"))

def stdout (o : Outcome) : String :=
  o.text fun
    | .out s => some s
    | .err _ => none

def stderr (o : Outcome) : String :=
  o.text fun
    | .out _ => none
    | .err s => some s

end Outcome

end TableChart
