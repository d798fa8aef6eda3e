import TableChart.CommandLine.Arguments

/-!
# Reading a command line

The words are read from left to right.  An option without an attached value, and the path, stay
PENDING: they are settled when the next argument begins or when the words end.  So an argument that
is unknown is reported before anything that is wrong with the pending one.

* `Word`               what a word looks like: `--`, `--name`, `--name=value`, `-xvalue` or plain;
* `Reading.step`       one word; after `--` every word is plain and no option takes it;
* `Arguments.read`     a whole command line.
-/

namespace TableChart

/-! ## words -/

inductive Word where
  | divider
  | long (name : String) (value : Option String)
  | short (letter : Char) (rest : List Char)
  | plain

namespace Word

/-- a long option ends at its first `=` -/
def ofLong (cs : List Char) : Word :=
  long (String.ofList (cs.takeWhile (· ≠ '=')))
    (match cs.dropWhile (· ≠ '=') with
      | [] => none
      | _ :: value => some (String.ofList value))

def ofText (text : String) : Word :=
  match text.toList with
  | ['-', '-'] => divider
  | '-' :: '-' :: cs => ofLong cs
  | '-' :: c :: cs => short c cs
  | _ => plain

end Word

/-! ## reading -/

inductive Pending where
  | setting (s : Setting) (value : Option String)
  | path (text : String)

structure Reading where
  draft : Draft := {}
  pending : Option Pending := none
  divided : Bool := false

namespace Reading

def settle (r : Reading) : Except UsageFault Reading :=
  match r.pending with
  | none => .ok r
  | some (.setting _ none) => .error .missingValue
  | some (.setting s (some value)) =>
    (r.draft.put s value).map fun draft => { r with draft, pending := none }
  | some (.path text) => (r.draft.putPath text).map fun draft => { r with draft, pending := none }

def hasPath (r : Reading) : Bool :=
  match r.pending with
  | some (.path _) => true
  | _ => r.draft.path.isSome

/-- there is room for one path -/
def positional (r : Reading) (text : String) : Except UsageFault Reading :=
  if r.hasPath then .error .unknownArgument
  else r.settle.map fun r => { r with pending := some (.path text) }

def option (r : Reading) (s : Setting) : Option String → Except UsageFault Reading
  | none => r.settle.map fun r => { r with pending := some (.setting s none) }
  | some value => do
    let r ← r.settle
    return { r with draft := ← r.draft.put s value }

/-- a request ends the reading once the pending argument is settled -/
def request (r : Reading) (wanted : UsageFault) : Except UsageFault Reading := do
  let _ ← r.settle
  .error wanted

def flag? (name : String) : Option UsageFault :=
  if name = "help" then some .helpWanted
  else if name = "version" then some .versionWanted
  else none

def flagOfLetter? (c : Char) : Option UsageFault :=
  if c = 'h' then some .helpWanted
  else if c = 'V' then some .versionWanted
  else none

def long (r : Reading) (name : String) (value : Option String) : Except UsageFault Reading :=
  match Setting.ofLongName? name, flag? name with
  | some s, _ => r.option s value
  | none, some wanted => if value.isSome then .error .unexpectedValue else r.request wanted
  | none, none => .error .unknownArgument

/-- the value that is attached to a letter, an `=` in front of it left out -/
def attached? : List Char → Option String
  | [] => none
  | '=' :: cs => some (String.ofList cs)
  | cs => some (String.ofList cs)

def short (r : Reading) (c : Char) (rest : List Char) : Except UsageFault Reading :=
  match Setting.ofLetter? c, flagOfLetter? c with
  | some s, _ => r.option s (attached? rest)
  | none, some wanted => r.request wanted
  | none, none => .error .unknownArgument

def plain (r : Reading) (text : String) : Except UsageFault Reading :=
  match r.pending with
  | some (.setting s none) => .ok { r with pending := some (.setting s (some text)) }
  | _ => r.positional text

def step (r : Reading) (text : String) : Except UsageFault Reading :=
  if r.divided then r.positional text
  else
    match Word.ofText text with
    | .divider => .ok { r with divided := true }
    | .long name value => r.long name value
    | .short c rest => r.short c rest
    | .plain => r.plain text

end Reading

def Arguments.read (words : List String) : Except UsageFault Arguments := do
  let r ← words.foldlM Reading.step {}
  (← r.settle).draft.toArguments

end TableChart
