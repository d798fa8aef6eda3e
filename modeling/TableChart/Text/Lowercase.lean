import TableChart.Text.LowercaseRuns
import TableChart.Text.CaseRanges

/-!
# Lowercase of a text

Every character is mapped by itself, except that a capital sigma becomes a final sigma at the end
of a word: after a cased character and before none, case-ignorable characters left aside.
-/

namespace TableChart.Text

def lowerChar (c : Char) : List Char :=
  if c = 'İ' then ['i', Char.ofNat 0x307]
  else
    match lowercaseRuns.find? (·.holds c.toNat) with
    | some run => [Char.ofNat (run.image + (c.toNat - run.first))]
    | none => [c]

/-- the first character that is not case-ignorable is cased -/
def meetsCased (cs : List Char) : Bool :=
  (cs.dropWhile isCaseIgnorable).head?.any isCased

/-- the lowercase of `cs`, where `before` holds the characters to its left, the nearest first -/
def lowerAfter (before : List Char) : List Char → List Char
  | [] => []
  | c :: cs =>
    let image :=
      if c = 'Σ' then (if meetsCased before && !meetsCased cs then ['ς'] else ['σ'])
      else lowerChar c
    image ++ lowerAfter (c :: before) cs

def lowercase (cs : List Char) : List Char := lowerAfter [] cs

end TableChart.Text
