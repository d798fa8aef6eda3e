import TableChart.File.ReadFault

/-!
# Disks

A disk lists what stands at absolute places; every place on the way to a listed one, or to the
workplace, is a directory.

* `Disk.at?`      what stands at a place;
* `Disk.walk`     one component of a path: only a directory can be walked on from, `.` and an empty
                  component stay there, `..` goes up, and a name must stand there;
* `Disk.read`     the content that a path leads to, or why there is none.

What is too long is refused before it is looked up: a path at once, a name when it is reached.
-/

namespace TableChart

/-- the names that lead to a place from the root -/
abbrev Place := List String

inductive Entry where
  | file (content : List UInt8)
  | directory
deriving DecidableEq

structure Disk where
  entries : List (Place × Entry)
  /-- where paths without a leading slash begin -/
  workplace : Place

namespace Disk

/-- in bytes, with the byte that ends a path -/
def pathLimit : Nat := 4096

/-- in bytes -/
def nameLimit : Nat := 255

def at? (d : Disk) (place : Place) : Option Entry :=
  match d.entries.find? (·.1 == place) with
  | some (_, entry) => some entry
  | none =>
    if (d.workplace :: d.entries.map Prod.fst).any place.isPrefixOf then some .directory else none

def walk (d : Disk) (place : Place) (name : String) : Except ReadFault Place :=
  match d.at? place with
  | none => .error .missing
  | some (.file _) => .error .notDirectory
  | some .directory =>
    if name = "" ∨ name = "." then .ok place
    else if name = ".." then .ok place.dropLast
    else if nameLimit < name.utf8ByteSize then .error .nameTooLong
    else .ok (place ++ [name])

def start (d : Disk) (path : String) : Place :=
  if path.toList.head? = some '/' then [] else d.workplace

def read (d : Disk) (path : String) : Except ReadFault (List UInt8) := do
  if path = "" then throw .missing
  if pathLimit ≤ path.utf8ByteSize then throw .nameTooLong
  let names := (path.toList.splitOn '/').map String.ofList
  match d.at? (← names.foldlM d.walk (d.start path)) with
  | none => throw .missing
  | some .directory => throw .isDirectory
  | some (.file content) => return content

end Disk

end TableChart
