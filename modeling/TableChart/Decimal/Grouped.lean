/-!
# Thousands separators

* `separated`   digits from the front, with a comma wherever a multiple of three is left, but not in
                front of all of them;
* `grouped n`   the decimal text of `n` with these commas.
-/

namespace TableChart

/-- a comma in front of each digit that begins a multiple of three digits -/
def parted : List Char → List Char
  | [] => []
  | c :: cs => if (cs.length + 1) % 3 = 0 then ',' :: c :: parted cs else c :: parted cs

def separated : List Char → List Char
  | [] => []
  | c :: cs => c :: parted cs

def grouped (n : Nat) : String := String.ofList (separated (Nat.toDigits 10 n))

end TableChart
