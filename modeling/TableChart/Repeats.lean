/-!
# Repeated elements

`repeats l` keeps the elements of `l` that stand after an equal one, in order.
-/

namespace TableChart

section
variable {α : Type} [DecidableEq α]

def repeatsAfter (seen : List α) : List α → List α
  | [] => []
  | x :: xs => if x ∈ seen then x :: repeatsAfter seen xs else repeatsAfter (x :: seen) xs

def repeats (l : List α) : List α := repeatsAfter [] l

end

end TableChart
