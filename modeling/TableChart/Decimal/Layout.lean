import TableChart.Decimal.Shortest

/-!
# Layouts of a number

* `Decimal.positional`    digits with zeros on either side as the point needs them;
* `Decimal.scientific`    one digit before the point and a signed exponent;
* `Finite64.plain`        always positional, with the sign of a zero;
* `Finite64.canonical`    positional from `1e-6` on and below `1e21`, else scientific; one zero;
* `Binary64.canonical`    canonical, with names for what is not finite.
-/

namespace TableChart

def digitChars (n : Nat) : List Char := Nat.toDigits 10 n

namespace Decimal

def positional (d : Decimal) : List Char :=
  let s := digitChars d.coefficient
  if 0 ≤ d.exponent then s ++ List.replicate d.exponent.toNat '0'
  else if 0 < d.lead then s.take d.lead.toNat ++ '.' :: s.drop d.lead.toNat
  else '0' :: '.' :: (List.replicate (-d.lead).toNat '0' ++ s)

/-- digits with a point after the first -/
def pointed : List Char → List Char
  | [] => []
  | [c] => [c]
  | c :: cs => c :: '.' :: cs

def scientific (d : Decimal) : List Char :=
  let e := d.lead - 1
  pointed (digitChars d.coefficient) ++ 'e' :: (if e < 0 then '-' else '+') :: digitChars e.natAbs

end Decimal

def signed (negative : Bool) (cs : List Char) : List Char :=
  if negative then '-' :: cs else cs

/-- the rank of the double `1e-6` -/
def positionalFrom : Nat := (⟨1, -6⟩ : Decimal).rank

/-- the rank of the double `1e21` -/
def scientificFrom : Nat := (⟨1, 21⟩ : Decimal).rank

/-- a magnitude other than zero -/
def canonicalMagnitude (rank : Nat) : List Char :=
  if positionalFrom ≤ rank ∧ rank < scientificFrom then (shortestDecimal rank).positional
  else (shortestDecimal rank).scientific

namespace Finite64

def plain (x : Finite64) : List Char :=
  signed x.negative (if x.rank = 0 then ['0'] else (shortestDecimal x.rank).positional)

def canonical (x : Finite64) : List Char :=
  if x.rank = 0 then ['0'] else signed x.negative (canonicalMagnitude x.rank)

end Finite64

def Binary64.canonical : Binary64 → String
  | .finite x => String.ofList x.canonical
  | .infinite negative => if negative then "-inf" else "inf"
  | .nan => "NaN"

end TableChart
