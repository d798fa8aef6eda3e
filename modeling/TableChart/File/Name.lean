import TableChart.Text.Lowercase

/-!
# File names and kinds

* `baseName?`     the last component of a path: empty components and `.` are skipped, `..` names
                  no file;
* `extension?`    what follows the last point of a base name, unless that point opens the name;
* `FileKind`      what an extension says about a file, letter case aside;
* `FileKind.ofName`   every name that ends in `.csv` is a table, also one that is nothing else.
-/

namespace TableChart

/-! ## paths -/

def components (path : List Char) : List (List Char) :=
  (path.splitOn '/').filter fun c => c ≠ [] ∧ c ≠ ['.']

def baseName? (path : List Char) : Option (List Char) :=
  match (components path).getLast? with
  | some name => if name = ['.', '.'] then none else some name
  | none => none

def extension? (path : List Char) : Option (List Char) := do
  let name := (← baseName? path).reverse
  match name.dropWhile (· ≠ '.') with
  | _ :: _ :: _ => some (name.takeWhile (· ≠ '.')).reverse
  | _ => none

def lowercaseExtension? (path : String) : Option String :=
  (extension? path.toList).map fun e => String.ofList (Text.lowercase e)

/-! ## kinds -/

inductive FileKind where
  | csv
  | other (extension : String)
  | missing
deriving DecidableEq

namespace FileKind

def ofPath (path : String) : FileKind :=
  match lowercaseExtension? path with
  | some e => if e = "csv" then csv else other e
  | none => missing

def ofName (name : String) : FileKind :=
  if ['.', 'c', 's', 'v'] <:+ Text.lowercase name.toList then csv else ofPath name

end FileKind

end TableChart
