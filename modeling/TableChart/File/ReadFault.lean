import TableChart.Fault

/-!
# Why a file cannot be read

The faults of reading a path, each with the number and the text under which the system reports it.
-/

namespace TableChart

inductive ReadFault where
  | missing
  | notPermitted
  | notDirectory
  | isDirectory
  | nameTooLong
deriving DecidableEq

namespace ReadFault

def all : List ReadFault := [missing, notPermitted, notDirectory, isDirectory, nameTooLong]

def number : ReadFault → Nat
  | missing => 2
  | notPermitted => 13
  | notDirectory => 20
  | isDirectory => 21
  | nameTooLong => 36

def text : ReadFault → String
  | missing => "No such file or directory"
  | notPermitted => "Permission denied"
  | notDirectory => "Not a directory"
  | isDirectory => "Is a directory"
  | nameTooLong => "File name too long"

def ofNumber? (n : Nat) : Option ReadFault := all.find? (·.number == n)

def toFault (f : ReadFault) : Fault :=
  .unreadable (f.text ++ " (os error " ++ String.ofList (Nat.toDigits 10 f.number) ++ ")")

end ReadFault

end TableChart
