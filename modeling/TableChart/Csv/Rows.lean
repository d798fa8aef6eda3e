/-!
# Rows of a comma-separated file

The bytes of a file are read one by one.  A quote opens a quoted field only at its start; inside,
a doubled quote stands for one, and after the closing quote the field goes on bare.  Quotes inside
a bare field stand for themselves.

* `Mode`          where the reader stands: before a row, before a field, in a bare field, in a
                  quoted one, or after a quote in a quoted one;
* `Scan.step`     one byte;
* `Scan.finish`   the end of the file ends a row that has begun;
* `csvRows`       the rows of a file, without its byte order mark.  Empty lines are no rows.
-/

namespace TableChart

/-! ## bytes that matter -/

def quoteByte : UInt8 := 0x22
def commaByte : UInt8 := 0x2C

def isBreak (b : UInt8) : Bool := b == 0x0A || b == 0x0D

/-! ## the reader -/

inductive Mode where
  | rowStart
  | fieldStart
  | bare
  | quoted
  | quoteSeen
deriving DecidableEq

/-- what has been read: all three lists hold the newest first -/
structure Scan where
  mode : Mode
  field : List UInt8
  row : List (List UInt8)
  rows : List (List (List UInt8))

namespace Scan

def start : Scan := ⟨.rowStart, [], [], []⟩

def push (s : Scan) (mode : Mode) (b : UInt8) : Scan := { s with mode, field := b :: s.field }

def endField (s : Scan) : Scan :=
  { s with mode := .fieldStart, field := [], row := s.field.reverse :: s.row }

def endRow (s : Scan) : Scan :=
  ⟨.rowStart, [], [], (s.field.reverse :: s.row).reverse :: s.rows⟩

/-- a byte of a bare field -/
def bareStep (s : Scan) (b : UInt8) : Scan :=
  if b = commaByte then s.endField
  else if isBreak b then s.endRow
  else s.push .bare b

/-- the first byte of a field -/
def firstStep (s : Scan) (b : UInt8) : Scan :=
  if b = quoteByte then { s with mode := .quoted } else s.bareStep b

def step (s : Scan) (b : UInt8) : Scan :=
  match s.mode with
  | .rowStart => if isBreak b then s else s.firstStep b
  | .fieldStart => s.firstStep b
  | .bare => s.bareStep b
  | .quoted => if b = quoteByte then { s with mode := .quoteSeen } else s.push .quoted b
  | .quoteSeen => if b = quoteByte then s.push .quoted b else s.bareStep b

def finish (s : Scan) : List (List (List UInt8)) :=
  (match s.mode with
    | .rowStart => s.rows
    | _ => s.endRow.rows).reverse

end Scan

/-! ## files -/

def withoutMark : List UInt8 → List UInt8
  | 0xEF :: 0xBB :: 0xBF :: bytes => bytes
  | bytes => bytes

def csvRows (bytes : List UInt8) : List (List (List UInt8)) :=
  ((withoutMark bytes).foldl Scan.step Scan.start).finish

end TableChart
