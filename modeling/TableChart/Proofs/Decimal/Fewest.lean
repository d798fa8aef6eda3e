import Mathlib.Algebra.Order.Floor.Semifield
import Mathlib.Data.Nat.Cast.Order.Field
import Mathlib.Data.Rat.Floor
import Mathlib.Tactic.FieldSimp
import TableChart.Proofs.Binary64.Nearest
import TableChart.Proofs.Decimal.Value

/-!
# The decimal that is chosen has the fewest digits and is the nearest of these

* `below_or_above`         no decimal of few digits lies strictly between the two neighbours of a
                           magnitude on the grid of that many;
* `exists_onGrid?`         so if any of them rounds to the magnitude, a neighbour does, and the one that
                           is chosen is no farther away;
* `Fewest r d`             `d` rounds to rank `r`, nothing with fewer digits does, and nothing with as
                           many is nearer;
* `fewest_shortestDecimal` the decimal that is chosen;
* `Fewest.lead_le_iff`     where its first digit stands is told by comparing ranks.
-/

namespace TableChart

/-! ## decimals against magnitudes -/

namespace Decimal
variable {d : Decimal} {r : Nat}

theorem value_le_rankValue_iff : d.value ≤ rankValue r ↔ d.unitsNum ≤ units r * d.unitsDen := by
  have den : (0 : ℚ) < d.unitsDen := Nat.cast_pos.mpr d.unitsDen_pos
  rw [value_eq, rankValue, div_le_div_iff_of_pos_right Finite64.unitsInOne_cast_pos, div_le_iff₀ den]
  exact_mod_cast Iff.rfl

theorem rankValue_le_value_iff : rankValue r ≤ d.value ↔ units r * d.unitsDen ≤ d.unitsNum := by
  have den : (0 : ℚ) < d.unitsDen := Nat.cast_pos.mpr d.unitsDen_pos
  rw [value_eq, rankValue, div_le_div_iff_of_pos_right Finite64.unitsInOne_cast_pos, le_div_iff₀ den]
  exact_mod_cast Iff.rfl

theorem rank_le_of_value_le (h : d.value ≤ rankValue r) : d.rank ≤ r := by
  have le := value_le_rankValue_iff.mp h
  have rounds := roundsTo_nearestRank d.unitsNum d.unitsDen_pos
  exact rounds.le_of_le d.unitsDen_pos Nat.one_pos (roundsTo_units r) (by omega)

theorem le_rank_of_le_value (h : rankValue r ≤ d.value) : r ≤ d.rank :=
  le_nearestRank d.unitsDen_pos (rankValue_le_value_iff.mp h)

theorem value_shift (c k : Nat) (x : Int) :
    (⟨c * 10 ^ k, x⟩ : Decimal).value = (⟨c, x + k⟩ : Decimal).value := by
  show ((c * 10 ^ k : Nat) : ℚ) * 10 ^ x = c * 10 ^ (x + k)
  rw [zpow_add₀ (by norm_num), zpow_natCast, Nat.cast_mul, Nat.cast_pow]
  push_cast
  ring

end Decimal

/-! ## grids -/

section
variable (r : Nat) (x : Int)

/-- the magnitude as so many multiples of `10 ^ x` -/
theorem rankValue_eq : rankValue r = gridNum r x / gridDen x * 10 ^ x := by
  have one := Finite64.unitsInOne_cast_pos.ne'
  have ten (k : Nat) : (10 : ℚ) ^ k ≠ 0 := pow_ne_zero _ (by norm_num)
  rw [rankValue, gridNum_eq, gridDen_eq, Nat.cast_mul, Nat.cast_mul, Nat.cast_pow, Nat.cast_pow,
    Nat.cast_ofNat, ← Decimal.pow_places x]
  field_simp

theorem gridBelow_value : (gridBelow r x).value = (gridNum r x / gridDen x : Nat) * 10 ^ x := rfl

theorem gridAbove_value (k : Nat) :
    (gridAbove r k x).value = (gridNum r x / gridDen x + 1 : Nat) * 10 ^ x := by
  rw [gridAbove_eq]
  split
  · rename_i carry
    rw [carry, ← Decimal.value_shift 1 k x, Nat.one_mul]
    rfl
  · rfl

theorem gridBelow_le : (gridBelow r x).value ≤ rankValue r := by
  rw [rankValue_eq r x, gridBelow_value]
  exact mul_le_mul_of_nonneg_right Nat.cast_div_le (zpow_nonneg (by norm_num) x)

theorem lt_gridAbove (k : Nat) : rankValue r < (gridAbove r k x).value := by
  have lt := Nat.lt_floor_add_one ((gridNum r x : ℚ) / gridDen x)
  rw [Nat.floor_div_eq_div] at lt
  rw [rankValue_eq r x, gridAbove_value, Nat.cast_succ]
  exact mul_lt_mul_of_pos_right lt (zpow_pos (by norm_num) x)

/-- the remainder tells on which side of the middle the magnitude lies -/
theorem grid_middle (k : Nat) :
    (gridBelow r x).value + (gridAbove r k x).value - 2 * rankValue r
      = (gridDen x - 2 * (gridNum r x % gridDen x : Nat)) / gridDen x * 10 ^ x := by
  have den : (gridDen x : ℚ) ≠ 0 := Nat.cast_ne_zero.mpr (gridDen_pos x).ne'
  have divided : (gridNum r x : ℚ)
      = gridDen x * (gridNum r x / gridDen x : Nat) + (gridNum r x % gridDen x : Nat) := by
    exact_mod_cast (Nat.div_add_mod (gridNum r x) (gridDen x)).symm
  rw [gridBelow_value, gridAbove_value, rankValue_eq r x, Nat.cast_succ]
  generalize (gridNum r x / gridDen x : Nat) = floor at divided ⊢
  rw [divided]
  field_simp
  ring

end

section
variable {r k : Nat} {x : Int}

theorem gridBelow_lt_gridAbove (r k : Nat) (x : Int) : (gridBelow r x).value < (gridAbove r k x).value :=
  lt_of_le_of_lt (gridBelow_le r x) (lt_gridAbove r x k)

/-- the nearer neighbour is one of the two, and no farther away than either -/
theorem gridNearest_cases :
    (gridNearest r k x = gridBelow r x ∨ gridNearest r k x = gridAbove r k x) ∧
      |(gridNearest r k x).value - rankValue r| ≤ |(gridBelow r x).value - rankValue r| ∧
      |(gridNearest r k x).value - rankValue r| ≤ |(gridAbove r k x).value - rankValue r| := by
  have lt := gridBelow_lt_gridAbove r k x
  have middle := grid_middle r x k
  have ten : (0 : ℚ) ≤ 10 ^ x := zpow_nonneg (by norm_num) x
  have den : (0 : ℚ) ≤ gridDen x := Nat.cast_nonneg _
  unfold gridNearest
  split
  · rename_i low
    have low : 2 * ((gridNum r x % gridDen x : Nat) : ℚ) ≤ gridDen x := by exact_mod_cast low.le
    refine ⟨Or.inl rfl, le_rfl, (abs_sub_le_iff_left lt).mpr (sub_nonneg.mp ?_)⟩
    rw [middle]
    exact mul_nonneg (div_nonneg (sub_nonneg.mpr low) den) ten
  · rename_i high
    have high : (gridDen x : ℚ) ≤ 2 * (gridNum r x % gridDen x : Nat) := by
      exact_mod_cast Nat.le_of_not_lt high
    refine ⟨Or.inr rfl, (abs_sub_le_iff_right lt).mpr (sub_nonpos.mp ?_), le_rfl⟩
    rw [middle]
    exact mul_nonpos_of_nonpos_of_nonneg (div_nonpos_of_nonpos_of_nonneg (sub_nonpos.mpr high) den) ten

/-- what has a digit less than the grid lies on it or before its first point of as many digits -/
theorem below_or_above (digits : 10 ^ k ≤ gridNum r x / gridDen x) {e : Decimal}
    (he : e.coefficient < 10 ^ (k + 1)) :
    e.value ≤ (gridBelow r x).value ∨ (gridAbove r (k + 1) x).value ≤ e.value := by
  have ten : (0 : ℚ) ≤ 10 ^ x := zpow_nonneg (by norm_num) x
  rw [gridBelow_value, gridAbove_value]
  by_cases finer : e.exponent < x
  · have places : (10 : ℚ) ^ e.exponent ≤ 10 ^ (x - 1) := zpow_le_zpow_right₀ (by norm_num) (by omega)
    left
    calc e.value ≤ (10 ^ (k + 1) : Nat) * 10 ^ e.exponent :=
          mul_le_mul_of_nonneg_right (Nat.cast_le.mpr he.le) (zpow_nonneg (by norm_num) _)
      _ ≤ (10 ^ (k + 1) : Nat) * 10 ^ (x - 1) := mul_le_mul_of_nonneg_left places (Nat.cast_nonneg _)
      _ = (10 ^ k : Nat) * 10 ^ x := by
        rw [zpow_sub_one₀ (by norm_num)]
        push_cast
        ring
      _ ≤ (gridNum r x / gridDen x : Nat) * 10 ^ x :=
        mul_le_mul_of_nonneg_right (Nat.cast_le.mpr digits) ten
  · obtain ⟨j, hj⟩ : ∃ j : Nat, e.exponent = x + j := ⟨(e.exponent - x).toNat, by omega⟩
    have multiple : e.value = (e.coefficient * 10 ^ j : Nat) * 10 ^ x := by
      have shift := Decimal.value_shift e.coefficient j x
      rw [← hj] at shift
      exact shift.symm
    rw [multiple]
    rcases Nat.lt_or_ge (gridNum r x / gridDen x) (e.coefficient * 10 ^ j) with above | below
    · exact Or.inr (mul_le_mul_of_nonneg_right (Nat.cast_le.mpr above) ten)
    · exact Or.inl (mul_le_mul_of_nonneg_right (Nat.cast_le.mpr below) ten)

/-- so if it rounds to the magnitude, the neighbour on its side does, and is no farther away -/
theorem exists_neighbour (digits : 10 ^ k ≤ gridNum r x / gridDen x) {e : Decimal}
    (he : e.coefficient < 10 ^ (k + 1)) (rank : e.rank = r) :
    ∃ d, (d = gridBelow r x ∨ d = gridAbove r (k + 1) x) ∧ d.rank = r ∧
      |d.value - rankValue r| ≤ |e.value - rankValue r| := by
  have le := gridBelow_le r x
  have lt := lt_gridAbove r x (k + 1)
  rcases below_or_above digits he with below | above
  · refine ⟨_, Or.inl rfl, ?_, ?_⟩
    · refine le_antisymm (Decimal.rank_le_of_value_le le) ?_
      exact rank.ge.trans (Decimal.rank_mono below)
    · rw [abs_of_nonpos (sub_nonpos.mpr le), abs_of_nonpos (sub_nonpos.mpr (below.trans le))]
      linarith
  · refine ⟨_, Or.inr rfl, ?_, ?_⟩
    · refine le_antisymm ?_ (Decimal.le_rank_of_le_value lt.le)
      exact (Decimal.rank_mono above).trans rank.le
    · rw [abs_of_nonneg (sub_nonneg.mpr lt.le), abs_of_nonneg (sub_nonneg.mpr (lt.le.trans above))]
      linarith

end

/-! ## the search -/

section
variable {r : Nat} (h : 0 < r)
include h

theorem pow_le_gridNum_div (k : Nat) :
    10 ^ k ≤ gridNum r (leadOf r - (k + 1 : Nat)) / gridDen (leadOf r - (k + 1 : Nat)) :=
  (Nat.le_div_iff_mul_le (gridDen_pos _)).mpr (pow_le_gridNum h k)

theorem gridNum_div_lt (k : Nat) :
    gridNum r (leadOf r - k) / gridDen (leadOf r - k) < 10 ^ k := by
  have den := gridDen_pos (leadOf r - k)
  have shift := gridNum_shift r (leadOf r) k
  rw [Nat.div_lt_iff_lt_mul den]
  refine Nat.lt_of_mul_lt_mul_right (a := gridDen (leadOf r)) ?_
  rw [shift, Nat.mul_right_comm]
  exact Nat.mul_lt_mul_of_pos_left (leadOf_upper h) (Nat.mul_pos (Nat.pow_pos (by omega)) den)

/-- the decimals that are tried have no more digits than the grid -/
theorem coefficient_lt (k : Nat) :
    (gridBelow r (leadOf r - (k + 1 : Nat))).coefficient < 10 ^ (k + 1) ∧
      (gridAbove r (k + 1) (leadOf r - (k + 1 : Nat))).coefficient < 10 ^ (k + 1) := by
  have lt := gridNum_div_lt h (k + 1)
  rw [gridAbove_eq, gridBelow]
  generalize gridNum r (leadOf r - (k + 1 : Nat)) / gridDen (leadOf r - (k + 1 : Nat)) = floor at lt ⊢
  refine ⟨lt, ?_⟩
  split
  · exact Nat.one_lt_pow (by omega) (by omega)
  · rename_i no_carry
    exact lt_of_le_of_ne (Nat.succ_le_of_lt lt) no_carry

theorem of_onGrid? {k : Nat} {d : Decimal} (hit : onGrid? r (k + 1) = some d) :
    d.rank = r ∧ d.coefficient < 10 ^ (k + 1) := by
  refine ⟨rank_of_onGrid? hit, ?_⟩
  rw [onGrid?_eq] at hit
  have mem := List.mem_of_find?_eq_some hit
  obtain ⟨below, above⟩ := coefficient_lt h k
  generalize leadOf r - (k + 1 : Nat) = x at below above mem
  have nearest := (gridNearest_cases (r := r) (k := k + 1) (x := x)).1
  have tried : d = gridBelow r x ∨ d = gridAbove r (k + 1) x := by
    simp only [List.mem_cons, List.not_mem_nil, or_false] at mem
    rcases mem with e | e | e
    · exact e ▸ nearest
    · exact Or.inl e
    · exact Or.inr e
  rcases tried with e | e <;> rw [e]
  · exact below
  · exact above

/-- if a decimal with the digits of the grid rounds to the magnitude, one at least as near is found -/
theorem exists_onGrid? {k : Nat} {e : Decimal} (he : e.coefficient < 10 ^ (k + 1)) (rank : e.rank = r) :
    ∃ d, onGrid? r (k + 1) = some d ∧ |d.value - rankValue r| ≤ |e.value - rankValue r| := by
  obtain ⟨d, side, hit, near⟩ := exists_neighbour (pow_le_gridNum_div h k) he rank
  have rounds (d : Decimal) : (fun d : Decimal => d.rank == r) d ↔ d.rank = r := beq_iff_eq
  rw [onGrid?_eq]
  generalize (fun d : Decimal => d.rank == r) = tried at rounds ⊢
  generalize leadOf r - (k + 1 : Nat) = x at side
  obtain ⟨nearest, near_below, near_above⟩ := gridNearest_cases (r := r) (k := k + 1) (x := x)
  have hit := (rounds d).mpr hit
  by_cases first : tried (gridNearest r (k + 1) x)
  · refine ⟨_, List.find?_cons_of_pos first, ?_⟩
    rcases side with e | e <;> rw [e] at near
    · exact near_below.trans near
    · exact near_above.trans near
  · -- the nearer neighbour does not round to the magnitude, so the other one is `d`
    refine ⟨d, ?_, near⟩
    rw [List.find?_cons_of_neg first]
    rcases side with e | e <;> rw [e] at hit ⊢
    · exact List.find?_cons_of_pos hit
    · rcases nearest with e' | e' <;> rw [e'] at first
      · rw [List.find?_cons_of_neg first, List.find?_cons_of_pos hit]
      · exact absurd hit first

end

/-- the first of some consecutive numbers where `f` is defined -/
theorem findSome?_range' {α : Type} {f : Nat → Option α} {a : α} (s n : Nat)
    (h : (List.range' s n).findSome? f = some a) :
    ∃ k, s ≤ k ∧ f k = some a ∧ ∀ j, s ≤ j → j < k → f j = none := by
  induction n generalizing s with
  | zero => cases h
  | succ n ih =>
    rw [List.range'_succ, List.findSome?_cons] at h
    cases hs : f s with
    | some b =>
      rw [hs] at h
      exact ⟨s, le_rfl, hs.trans h, fun j _ _ => by omega⟩
    | none =>
      rw [hs] at h
      obtain ⟨k, le, hit, miss⟩ := ih (s + 1) h
      refine ⟨k, by omega, hit, fun j hj lt => ?_⟩
      rcases Nat.eq_or_lt_of_le hj with rfl | later
      · exact hs
      · exact miss j later lt

/-! ## the decimal that is chosen -/

/-- `d` rounds to rank `r`; nothing with fewer digits does, and nothing with as many that does is
nearer -/
structure Fewest (r : Nat) (d : Decimal) : Prop where
  rank : d.rank = r
  fewest : ∀ (e : Decimal) (k : Nat), e.rank = r → e.coefficient < 10 ^ k →
    digitCount d.coefficient ≤ k
  closest : ∀ e : Decimal, e.rank = r → e.coefficient < 10 ^ digitCount d.coefficient →
    |d.value - rankValue r| ≤ |e.value - rankValue r|

theorem exists_shortestDecimal {r : Nat} (h : 0 < r) :
    ∃ k, onGrid? r (k + 1) = some (shortestDecimal r) ∧ ∀ j < k, onGrid? r (j + 1) = none := by
  unfold shortestDecimal
  cases search : (List.range' 1 17).findSome? (onGrid? r) with
  | some d =>
    rw [Option.getD_some]
    obtain ⟨k, le, hit, miss⟩ := findSome?_range' 1 17 search
    obtain ⟨k, rfl⟩ : ∃ j, k = j + 1 := ⟨k - 1, by omega⟩
    exact ⟨k, hit, fun j lt => miss (j + 1) (by omega) (by omega)⟩
  | none =>
    -- seventeen digits always suffice
    have last := List.findSome?_eq_none_iff.mp search 17 (List.mem_range'_1.mpr ⟨by omega, by omega⟩)
    rw [onGrid?_eq, Nat.cast_ofNat, List.find?_eq_none] at last
    exact absurd (beq_iff_eq.mpr (rank_gridNearest h)) (last _ List.mem_cons_self)

theorem fewest_shortestDecimal {r : Nat} (h : 0 < r) : Fewest r (shortestDecimal r) := by
  obtain ⟨k, hit, miss⟩ := exists_shortestDecimal h
  obtain ⟨rank, digits⟩ := of_onGrid? h hit
  have fewest (e : Decimal) (j : Nat) (he : e.rank = r) (lt : e.coefficient < 10 ^ j) : k + 1 ≤ j := by
    by_contra fewer
    cases j with
    | zero =>
      have zero := Decimal.rank_eq_zero_of_coefficient (Nat.lt_one_iff.mp lt)
      omega
    | succ j =>
      obtain ⟨d, found, -⟩ := exists_onGrid? h lt he
      rw [miss j (by omega)] at found
      cases found
  have count : digitCount (shortestDecimal r).coefficient = k + 1 := by
    refine le_antisymm ?_ (fewest _ _ rank (lt_pow_digitCount _))
    exact (Nat.length_toDigits_le_iff (by omega) (by omega)).mpr digits
  refine ⟨rank, fun e j he lt => count.le.trans (fewest e j he lt), fun e he lt => ?_⟩
  rw [count] at lt
  obtain ⟨d, found, near⟩ := exists_onGrid? h lt he
  rw [hit] at found
  exact Option.some.inj found ▸ near

/-! ## the first digit and the last -/

namespace Decimal
variable {d : Decimal}

theorem value_lt (d : Decimal) : d.value < 10 ^ d.lead := by
  have lt : (d.coefficient : ℚ) < (10 ^ digitCount d.coefficient : Nat) :=
    Nat.cast_lt.mpr (lt_pow_digitCount _)
  calc d.value < (10 ^ digitCount d.coefficient : Nat) * 10 ^ d.exponent :=
        mul_lt_mul_of_pos_right lt (zpow_pos (by norm_num) _)
    _ = 10 ^ d.lead := by
      rw [lead_eq, zpow_add₀ (by norm_num), zpow_natCast, Nat.cast_pow, Nat.cast_ofNat]

theorem le_value (pos : 0 < d.coefficient) : 10 ^ (d.lead - 1) ≤ d.value := by
  have digits := digitCount_pos d.coefficient
  have places : d.lead - 1 = (digitCount d.coefficient - 1 : Nat) + d.exponent := by
    rw [lead_eq]
    omega
  calc (10 : ℚ) ^ (d.lead - 1) = (10 ^ (digitCount d.coefficient - 1) : Nat) * 10 ^ d.exponent := by
        rw [places, zpow_add₀ (by norm_num), zpow_natCast, Nat.cast_pow, Nat.cast_ofNat]
    _ ≤ d.value :=
      mul_le_mul_of_nonneg_right (Nat.cast_le.mpr (pow_digitCount_le pos)) (zpow_nonneg (by norm_num) _)

theorem value_one (p : Int) : (⟨1, p⟩ : Decimal).value = 10 ^ p := by
  rw [value, Nat.cast_one, one_mul]

end Decimal

namespace Fewest
variable {r : Nat} {d : Decimal} (h : Fewest r d) (hr : 0 < r)
include h hr

theorem coefficient_pos : 0 < d.coefficient := by
  by_contra zero
  have rank := Decimal.rank_eq_zero_of_coefficient (Nat.eq_zero_of_not_pos zero)
  rw [h.rank] at rank
  omega

/-- a zero at the end could be left out -/
theorem coefficient_mod_ten : d.coefficient % 10 ≠ 0 := by
  intro zero
  have pos := h.coefficient_pos hr
  obtain ⟨c, hc⟩ := Nat.dvd_of_mod_eq_zero zero
  have rank : (⟨c, d.exponent + 1⟩ : Decimal).rank = r := by
    rw [← h.rank, ← Nat.cast_one, ← Decimal.rank_shift c 1 d.exponent, pow_one, Nat.mul_comm, ← hc]
  have lt := lt_pow_digitCount d.coefficient
  have digits := digitCount_pos d.coefficient
  have fewer := h.fewest _ (digitCount d.coefficient - 1) rank ?_
  · omega
  · refine Nat.lt_of_mul_lt_mul_left (a := 10) ?_
    rw [← hc, ← Nat.pow_succ', Nat.succ_eq_add_one, Nat.sub_add_cancel digits]
    exact lt

/-- The digits are at most `p` places before the point exactly if the magnitude is less than what
`10 ^ p` rounds to: were it the same, `10 ^ p` would have been chosen. -/
theorem lead_le_iff {p : Int} (gap : (⟨9, p - 1⟩ : Decimal).rank < (⟨1, p⟩ : Decimal).rank) :
    d.lead ≤ p ↔ r < (⟨1, p⟩ : Decimal).rank := by
  have pos := h.coefficient_pos hr
  constructor
  · intro lead
    have le : d.value ≤ (⟨1, p⟩ : Decimal).value := by
      rw [Decimal.value_one]
      exact d.value_lt.le.trans (zpow_le_zpow_right₀ (by norm_num) lead)
    refine lt_of_le_of_ne (h.rank ▸ Decimal.rank_mono le) fun same => ?_
    have one := h.fewest ⟨1, p⟩ 1 same.symm (Nat.one_lt_pow one_ne_zero (by omega))
    have digits := digitCount_pos d.coefficient
    have digit : d.coefficient ≤ 9 := by
      have lt := lt_pow_digitCount d.coefficient
      rw [show digitCount d.coefficient = 1 by omega] at lt
      omega
    have exponent : d.exponent ≤ p - 1 := by
      have := d.lead_eq
      omega
    have small : d.value ≤ (⟨9, p - 1⟩ : Decimal).value :=
      mul_le_mul (Nat.cast_le.mpr digit) (zpow_le_zpow_right₀ (by norm_num) exponent)
        (zpow_nonneg (by norm_num) _) (Nat.cast_nonneg _)
    have rank := Decimal.rank_mono small
    rw [h.rank] at rank
    omega
  · intro lt
    by_contra lead
    have le : (⟨1, p⟩ : Decimal).value ≤ d.value := by
      rw [Decimal.value_one]
      exact (zpow_le_zpow_right₀ (by norm_num) (by omega)).trans (Decimal.le_value pos)
    have rank := Decimal.rank_mono le
    rw [h.rank] at rank
    omega

end Fewest

end TableChart
