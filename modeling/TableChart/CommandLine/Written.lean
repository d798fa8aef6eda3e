import TableChart.CommandLine.Arguments

/-!
# Written form of arguments

* `Arguments.settings`   the options that a command line for these arguments may hold, with their
                         values;
* `writeSetting`         an option with its value attached;
* `writeWords`           options, then `--`, then the path.
-/

namespace TableChart

def Arguments.settings (a : Arguments) : List (Setting × String) :=
  let count (n : Nat) : String := String.ofList (Nat.toDigits 10 n)
  a.filter.toList.map (Setting.filter, ·)
    ++ [(.limit, count a.limit), (.performanceCap, count a.limits.warnAbove),
      (.rowCap, count a.limits.cap)]
    ++ a.x.toList.map (Setting.xKey, ·) ++ a.y.toList.map (Setting.yKey, ·)

def writeSetting (setting : Setting × String) : String :=
  "--" ++ setting.1.longName ++ "=" ++ setting.2

def writeWords (settings : List (Setting × String)) (path : String) : List String :=
  settings.map writeSetting ++ ["--", path]

end TableChart
