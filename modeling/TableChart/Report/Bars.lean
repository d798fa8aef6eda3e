import TableChart.Decimal.Layout
import TableChart.Series

/-!
# Bars

* `barLength`    how many marks a magnitude gets when the largest gets `barWidth`: the share of the
                 largest and then its multiple are rounded to binary64, and the multiple to the
                 nearest whole number, a half upwards;
* `barLines`     a title and a line for each shown point, labels padded to one width, and a line
                 that counts the points which are not shown;
* `chartLines?`  these lines, unless their width is beyond what the formatter can pad to.
-/

namespace TableChart

def barWidth : Nat := 40

/-- ranks in place of magnitudes -/
def barLength (rank largest : Nat) : Nat :=
  if largest = 0 then 0
  else
    let share := nearestRank (units rank * Nat.pow 2 1074) (units largest)
    let marks := nearestRank (barWidth * units share) 1
    (2 * units marks + Nat.pow 2 1074) / Nat.pow 2 1075

def largestRank (points : List Point) : Nat := (points.map (·.value.rank)).foldl max 0

/-- the greatest width that can be asked for while the program runs -/
def widthBound : Nat := 65535

/-- never shortens; the width is looked at before, by `chartLines?` -/
def padded (width : Nat) (s : String) : String :=
  s ++ String.ofList (List.replicate (width - s.length) ' ')

def labelWidth (title : String) (points : List Point) : Nat :=
  (points.map (·.label.length)).foldl max title.length

def barLine (width largest : Nat) (p : Point) : String :=
  padded width p.label ++ " | " ++ String.ofList (List.replicate (barLength p.value.rank largest) '#')
    ++ " " ++ String.ofList p.value.plain

def countText (n : Nat) : String := String.ofList (Nat.toDigits 10 n)

def barLines (x y : String) (points : List Point) (limit : Nat) : List String :=
  let shown := points.take limit
  let width := labelWidth x shown
  (padded width x ++ " | " ++ y) :: shown.map (barLine width (largestRank shown))
    ++ if shown.length < points.length then
        ["... " ++ countText (points.length - shown.length) ++ " more"]
      else []

/-- All lines of a chart are padded to one width, so a width that is refused is refused at the
title, and no line is printed. -/
def chartLines? (x y : String) (points : List Point) (limit : Nat) : Option (List String) :=
  if labelWidth x (points.take limit) ≤ widthBound then some (barLines x y points limit) else none

end TableChart
