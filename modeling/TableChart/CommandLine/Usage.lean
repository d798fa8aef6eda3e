import TableChart.CommandLine.Arguments

/-!
# What is said about a command line

The texts for a command line that is not followed, and which of them were asked for.
-/

namespace TableChart

def usage : String :=
  "Usage: table-chart [-f EXPRESSION] [-l ROWS] [-p ROWS] [-r ROWS] [-x COLUMN] [-y COLUMN]"
    ++ " FILE_PATH"

def UsageFault.message : UsageFault → String
  | unknownArgument => "unexpected argument"
  | missingValue => "an option needs a value"
  | unexpectedValue => "a flag takes no value"
  | rejectedValue reason => "invalid value: " ++ reason
  | repeatedOption => "an option cannot be used twice"
  | emptyPath => "a path cannot be empty"
  | missingPath => "the path of a file is needed"
  | helpWanted => usage
  | versionWanted => "table-chart 0.1.0"

/-- help and the version are asked for, everything else is a mistake -/
def UsageFault.isRequest : UsageFault → Bool
  | helpWanted | versionWanted => true
  | _ => false

end TableChart
