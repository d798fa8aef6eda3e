import TableChart.Csv.Rows

/-!
# Written forms of rows

* `FieldForm`        a field is written bare or between quotes, with its own quotes doubled;
* `FieldForm.fits`   what may be written bare;
* `writeRow`         fields between commas;
* `writeRows`        rows, each with the line breaks after it.
-/

namespace TableChart

inductive FieldForm where
  | bare
  | quoted
deriving DecidableEq

def doubleQuotes (bytes : List UInt8) : List UInt8 :=
  bytes.flatMap fun b => if b = quoteByte then [b, b] else [b]

namespace FieldForm

def write : FieldForm → List UInt8 → List UInt8
  | bare, bytes => bytes
  | quoted, bytes => quoteByte :: doubleQuotes bytes ++ [quoteByte]

def fits : FieldForm → List UInt8 → Bool
  | bare, bytes => bytes.all fun b => b ≠ quoteByte && b ≠ commaByte && !isBreak b
  | quoted, _ => true

end FieldForm

def writeRow : List (FieldForm × List UInt8) → List UInt8
  | [] => []
  | [(form, bytes)] => form.write bytes
  | (form, bytes) :: rest => form.write bytes ++ commaByte :: writeRow rest

def writeRows (rows : List (List (FieldForm × List UInt8) × List UInt8)) : List UInt8 :=
  rows.flatMap fun (row, breaks) => writeRow row ++ breaks

end TableChart
