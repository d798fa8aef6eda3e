import TableChart.Report.Outcome

/-!
# The program

Reads the command line and one file, prints the lines of the outcome and exits with its status.
-/

namespace TableChart

/-- the system's number, which may arrive negated -/
def systemNumber? : IO.Error → Option Nat
  | .noFileOrDirectory _ code _ | .inappropriateType _ code _ | .permissionDenied _ code _
  | .invalidArgument _ code _ => some code.toInt32.toInt.natAbs
  | _ => none

def readingFault (e : IO.Error) : Fault :=
  match (systemNumber? e).bind ReadFault.ofNumber? with
  | some f => f.toFault
  | none => .unreadable (toString e)

def readContent (path : String) : IO (Except Fault (List UInt8)) := do
  try
    return .ok (← IO.FS.readBinFile path).toList
  catch e =>
    return .error (readingFault e)

def printLine : Line → IO Unit
  | .out s => IO.println s
  | .err s => IO.eprintln s

def runProgram (words : List String) : IO UInt32 := do
  let outcome ←
    match Arguments.read words with
    | .ok a => pure (Outcome.ofReport (Report.ofFile a (← readContent a.path)))
    | .error f => pure (Outcome.ofUsageFault f)
  outcome.lines.forM printLine
  return UInt32.ofNat outcome.status

end TableChart

def main (words : List String) : IO UInt32 := TableChart.runProgram words
