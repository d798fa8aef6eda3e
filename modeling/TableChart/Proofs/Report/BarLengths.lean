import Mathlib.Data.Rat.Floor
import Mathlib.Tactic.FieldSimp
import TableChart.Proofs.Binary64.Nearest
import TableChart.Proofs.Report.Bars

/-!
# How long the bars are

A bar is measured by three roundings, of the share that a magnitude has in the largest, of the multiple
of that share, and of this to a whole number.  Each of them keeps the order, so the bars are ordered as
the magnitudes are, and end where that of the largest one does.  A share is at most one, so nothing
overflows.

* `oneRank`, `fullRank`   the ranks of `1` and of `barWidth`, which are met exactly;
* `shareRank`, `multipleRank`, `wholeMarks`   the roundings, with `barLength_eq`;
* `Measures`              the same roundings as operations on values;
* `largestMagnitude`      the largest of the values that are shown, or zero;
* `WithinChart`           what the lengths of bars keep to;
* `bars_within_chart`     every chart is drawn with such bars.
-/

namespace TableChart

/-! ## the roundings -/

/-- the rank of `1` -/
def oneRank : Nat := 1023 * 2 ^ 52

/-- the rank of `barWidth` -/
def fullRank : Nat := 1028 * 2 ^ 52 + 2 ^ 50

theorem units_oneRank : units oneRank = unitsInOne := by
  have one : (2 ^ 52 + 0) * 2 ^ 1022 = unitsInOne := by decide +kernel
  rw [← one]
  exact units_binade 1022 0 (by omega)

theorem units_fullRank : units fullRank = barWidth * unitsInOne := by
  have full : (2 ^ 52 + 2 ^ 50) * 2 ^ 1027 = barWidth * unitsInOne := by decide +kernel
  rw [← full]
  exact units_binade 1027 (2 ^ 50) (by omega)

theorem oneRank_lt : oneRank < rankCount := by decide

theorem fullRank_lt : fullRank < rankCount := by decide

/-- the part of the largest magnitude -/
def shareRank (largest rank : Nat) : Nat := nearestRank (units rank * unitsInOne) (units largest)

def multipleRank (share : Nat) : Nat := nearestRank (barWidth * units share) 1

/-- units to a whole number -/
def wholeMarks (u : Nat) : Nat := (2 * u + unitsInOne) / (2 * unitsInOne)

theorem barLength_eq (rank : Nat) {largest : Nat} (h : 0 < largest) :
    barLength rank largest = wholeMarks (units (multipleRank (shareRank largest rank))) := by
  have double : Nat.pow 2 1075 = 2 * unitsInOne := by decide +kernel
  unfold barLength wholeMarks multipleRank shareRank
  rw [if_neg (Nat.ne_of_gt h), two_pow_eq, double]

/-! ### each of them keeps the order -/

theorem shareRank_mono {largest : Nat} (h : 0 < largest) : Monotone (shareRank largest) := by
  intro r s le
  refine nearestRank_mono (units_pos h) (units_pos h) ?_
  exact Nat.mul_le_mul_right _ (Nat.mul_le_mul_right _ (units_le_units le))

theorem multipleRank_mono : Monotone multipleRank := by
  intro r s le
  refine nearestRank_mono Nat.one_pos Nat.one_pos ?_
  exact Nat.mul_le_mul_right _ (Nat.mul_le_mul_left _ (units_le_units le))

theorem wholeMarks_mono : Monotone wholeMarks := fun _ _ le =>
  Nat.div_le_div_right (Nat.add_le_add_right (Nat.mul_le_mul_left 2 le) _)

theorem shareRank_self {largest : Nat} (h : 0 < largest) : shareRank largest largest = oneRank :=
  nearestRank_exact (units_pos h) (by rw [units_oneRank, Nat.mul_comm])

theorem multipleRank_oneRank : multipleRank oneRank = fullRank :=
  nearestRank_exact Nat.one_pos (by rw [units_oneRank, units_fullRank, Nat.mul_one])

theorem wholeMarks_fullRank : wholeMarks (units fullRank) = barWidth := by
  rw [units_fullRank]
  decide +kernel

theorem shareRank_zero {largest : Nat} (h : 0 < largest) : shareRank largest 0 = 0 :=
  nearestRank_exact (units_pos h) (by rw [units_zero, Nat.zero_mul, Nat.zero_mul])

theorem multipleRank_zero : multipleRank 0 = 0 :=
  nearestRank_exact Nat.one_pos (by rw [units_zero, Nat.mul_zero, Nat.zero_mul])

theorem wholeMarks_zero : wholeMarks (units 0) = 0 := by
  rw [units_zero]
  decide +kernel

theorem shareRank_le {rank largest : Nat} (h : 0 < largest) (le : rank ≤ largest) :
    shareRank largest rank ≤ oneRank :=
  shareRank_self h ▸ shareRank_mono h le

theorem multipleRank_le {share : Nat} (le : share ≤ oneRank) : multipleRank share ≤ fullRank :=
  multipleRank_oneRank ▸ multipleRank_mono le

/-! ## lengths -/

theorem barLength_of_zero (rank : Nat) : barLength rank 0 = 0 := rfl

theorem barLength_mono (largest : Nat) : Monotone fun rank => barLength rank largest := by
  intro r s le
  show barLength r largest ≤ barLength s largest
  rcases Nat.eq_zero_or_pos largest with rfl | h
  · rw [barLength_of_zero, barLength_of_zero]
  · rw [barLength_eq r h, barLength_eq s h]
    exact wholeMarks_mono (units_le_units (multipleRank_mono (shareRank_mono h le)))

theorem barLength_self {largest : Nat} (h : 0 < largest) : barLength largest largest = barWidth := by
  rw [barLength_eq largest h, shareRank_self h, multipleRank_oneRank, wholeMarks_fullRank]

theorem barLength_zero (largest : Nat) : barLength 0 largest = 0 := by
  rcases Nat.eq_zero_or_pos largest with rfl | h
  · exact barLength_of_zero 0
  · rw [barLength_eq 0 h, shareRank_zero h, multipleRank_zero, wholeMarks_zero]

theorem barLength_le {rank largest : Nat} (le : rank ≤ largest) : barLength rank largest ≤ barWidth := by
  rcases Nat.eq_zero_or_pos largest with rfl | h
  · rw [barLength_of_zero]
    exact Nat.zero_le _
  · exact barLength_self h ▸ barLength_mono largest le

/-! ## the roundings of values -/

/-- to the nearest whole number, a half away from zero -/
def roundHalfAway (q : ℚ) : ℤ := if q < 0 then -⌊-q + 1 / 2⌋ else ⌊q + 1 / 2⌋

open Finite64

/-- the marks for `value` if the largest magnitude is `largest`; without a positive one there is no
division -/
inductive Measures (largest value : ℚ) : Nat → Prop
  | flat (level : ¬ 0 < largest) : Measures largest value 0
  | scaled {share multiple : Finite64} {marks : Nat} (divisor : 0 < largest)
      (quotient : Nearest (|value| / largest) share)
      (product : Nearest (share.value * barWidth) multiple)
      (whole : (marks : ℤ) = roundHalfAway multiple.value) : Measures largest value marks

theorem Measures.unique {largest value : ℚ} {k m : Nat} (h : Measures largest value k)
    (h' : Measures largest value m) : k = m := by
  cases h with
  | flat level =>
    cases h' with
    | flat _ => rfl
    | scaled divisor _ _ _ => exact absurd divisor level
  | scaled divisor quotient product whole =>
    cases h' with
    | flat level => exact absurd divisor level
    | scaled _ quotient' product' whole' =>
      rw [quotient.value_unique quotient'] at product
      rw [product.value_unique product', ← whole'] at whole
      exact Int.ofNat.inj whole

theorem roundHalfAway_rankValue (r : Nat) : roundHalfAway (rankValue r) = wholeMarks (units r) := by
  have one := unitsInOne_cast_pos.ne'
  have nonneg : ¬ rankValue r < 0 :=
    not_lt.mpr (div_nonneg (Nat.cast_nonneg _) (Nat.cast_nonneg _))
  have half : rankValue r + 1 / 2 = (2 * units r + unitsInOne : Nat) / (2 * unitsInOne : Nat) := by
    rw [rankValue]
    push_cast
    field_simp
  rw [roundHalfAway, if_neg nonneg, half, Rat.floor_natCast_div_natCast]
  rfl

section
variable {rank largest : Nat} (h : 0 < largest) (le : rank ≤ largest)
include h le

theorem nearest_shareRank :
    Nearest (rankValue rank / rankValue largest)
      ⟨false, shareRank largest rank, (shareRank_le h le).trans_lt oneRank_lt⟩ := by
  have one := unitsInOne_cast_pos.ne'
  have pos : (units largest : ℚ) ≠ 0 := Nat.cast_ne_zero.mpr (units_pos h).ne'
  have quotient : rankValue rank / rankValue largest
      = (units rank * unitsInOne : Nat) / (units largest : Nat) / unitsInOne := by
    rw [rankValue, rankValue]
    push_cast
    field_simp
  rw [quotient]
  exact nearest_nearestRank (units_pos h) _

theorem nearest_multipleRank :
    Nearest (rankValue (shareRank largest rank) * barWidth)
      ⟨false, multipleRank (shareRank largest rank),
        (multipleRank_le (shareRank_le h le)).trans_lt fullRank_lt⟩ := by
  have product : rankValue (shareRank largest rank) * barWidth
      = (barWidth * units (shareRank largest rank) : Nat) / (1 : Nat) / unitsInOne := by
    rw [rankValue]
    push_cast
    ring
  rw [product]
  exact nearest_nearestRank Nat.one_pos _

end

theorem measures_barLength {x : Finite64} {largest : Nat} (le : x.rank ≤ largest) :
    Measures (rankValue largest) x.value (barLength x.rank largest) := by
  rcases Nat.eq_zero_or_pos largest with rfl | h
  · rw [barLength_of_zero, rankValue_zero]
    exact .flat (lt_irrefl 0)
  · have quotient := nearest_shareRank h le
    have product := nearest_multipleRank h le
    rw [← x.abs_value_eq] at quotient
    rw [← value_of_rank ((shareRank_le h le).trans_lt oneRank_lt)] at product
    refine .scaled (rankValue_pos_iff.mpr h) quotient product ?_
    rw [value_of_rank, roundHalfAway_rankValue, barLength_eq x.rank h]

/-! ## the largest magnitude -/

def largestMagnitude (points : List Point) : ℚ := (points.map fun p => |p.value.value|).foldl max 0

theorem largestMagnitude_eq (points : List Point) :
    largestMagnitude points = rankValue (largestRank points) := by
  have magnitudes : (points.map fun p => |p.value.value|)
      = (points.map (·.value.rank)).map rankValue := by
    rw [List.map_map]
    exact List.map_congr_left fun p _ => p.value.abs_value_eq
  have larger (r s : Nat) : max (rankValue r) (rankValue s) = rankValue (max r s) :=
    (rankValue_strictMono.monotone.map_max).symm
  rw [largestMagnitude, largestRank, magnitudes, ← rankValue_zero]
  exact List.foldl_map_hom larger

section
variable {shown : List Point} {p : Point}

theorem rank_le_largestRank (h : p ∈ shown) : p.value.rank ≤ largestRank shown :=
  (le_foldl_max _ 0).2 _ (List.mem_map_of_mem h)

theorem largestRank_eq (h : p ∈ shown) (largest : ∀ q ∈ shown, |q.value.value| ≤ |p.value.value|) :
    largestRank shown = p.value.rank := by
  refine Nat.le_antisymm (foldl_max_le (Nat.zero_le _) fun r hr => ?_) (rank_le_largestRank h)
  obtain ⟨q, hq, rfl⟩ := List.mem_map.mp hr
  exact (abs_value_le_iff q.value p.value).mp (largest q hq)

end

/-! ## charts -/

/-- the line of a point, with this many marks -/
def DrawnWith (width marks : Nat) (p : Point) (line : String) : Prop :=
  SetApart width p.label
    (String.ofList (List.replicate marks '#') ++ " " ++ String.ofList p.value.plain) line

def marksAmong (shown : List Point) (p : Point) : Nat := barLength p.value.rank (largestRank shown)

/-- the marks of the points that are shown; `divisor` is what their ranks are divided by, if they are -/
structure WithinChart (shown : List Point) (marks : Point → Nat) : Prop where
  divisor : largestRank shown ≠ 0 →
    0 < units (largestRank shown) ∧ units (largestRank shown) = largestMagnitude shown * unitsInOne
  measured : ∀ p ∈ shown, ∀ k, Measures (largestMagnitude shown) p.value.value k ↔ k = marks p
  bounded : ∀ p ∈ shown, marks p ≤ barWidth
  ordered : ∀ p ∈ shown, ∀ q ∈ shown, |p.value.value| ≤ |q.value.value| → marks p ≤ marks q
  full : ∀ p ∈ shown, p.value.value ≠ 0 → (∀ q ∈ shown, |q.value.value| ≤ |p.value.value|) →
    marks p = barWidth
  empty : ∀ p ∈ shown, p.value.value = 0 → marks p = 0

theorem withinChart_marksAmong (shown : List Point) : WithinChart shown (marksAmong shown) where
  divisor raised := by
    refine ⟨units_pos (Nat.pos_of_ne_zero raised), ?_⟩
    rw [largestMagnitude_eq, rankValue, div_mul_cancel₀ _ unitsInOne_cast_pos.ne']
  measured p hp k := by
    have measures := measures_barLength (rank_le_largestRank hp)
    rw [largestMagnitude_eq]
    constructor
    · intro h
      exact h.unique measures
    · rintro rfl
      exact measures
  bounded p hp := barLength_le (rank_le_largestRank hp)
  ordered p _ q _ le := barLength_mono (largestRank shown) ((abs_value_le_iff p.value q.value).mp le)
  full p hp nonzero largest := by
    rw [marksAmong, largestRank_eq hp largest]
    exact barLength_self (Nat.pos_of_ne_zero fun zero => nonzero (p.value.value_eq_zero_iff.mpr zero))
  empty p _ zero := by
    rw [marksAmong, p.value.value_eq_zero_iff.mp zero]
    exact barLength_zero (largestRank shown)

/-- **Bars stay within the chart.**  Each point that is shown gets a line with as many marks as two
operations on binary64 numbers and a rounding to a whole number measure, which never divide by zero.
There are at most `barWidth` of them, just so many for the largest magnitude if it is not zero, none for
zero, and never fewer for a greater magnitude. -/
theorem bars_within_chart (x y : String) (points : List Point) (limit : Nat) :
    ∃ width title bars, barLines x y points limit = title :: bars ++ moreLines limit points.length ∧
      SetApart width x y title ∧
      List.Forall₂ (fun p line => DrawnWith width (marksAmong (points.take limit) p) p line)
        (points.take limit) bars ∧
      WithinChart (points.take limit) (marksAmong (points.take limit)) := by
  obtain ⟨first, others⟩ := length_le_labelWidth x (points.take limit)
  refine ⟨_, _, _, barLines_eq x y points limit, setApart_padded first y, ?_,
    withinChart_marksAmong (points.take limit)⟩
  rw [List.forall₂_map_right_iff, List.forall₂_same]
  intro p hp
  exact setApart_barLine (others p hp) (largestRank (points.take limit))

end TableChart
