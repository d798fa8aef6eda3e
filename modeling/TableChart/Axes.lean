import TableChart.Fault

/-!
# Axes

* `Axes.proposed`          the first two numeric columns;
* `Axes.check`             two selected axes must be different numeric columns.
-/

namespace TableChart

structure Axes where
  x : Option String := none
  y : Option String := none
deriving DecidableEq

namespace Axes

def proposed (numeric : List String) : Axes := ⟨numeric[0]?, numeric[1]?⟩

def check (axes : Axes) (numeric : List String) : Except Fault Unit :=
  match axes with
  | ⟨some x, some y⟩ =>
    if x = y then .error .sameAxes
    else if x ∈ numeric ∧ y ∈ numeric then .ok ()
    else .error .nonNumericAxis
  | _ => .ok ()

end Axes

end TableChart
