import TableChart.Decimal.Shortest
import TableChart.Proofs.Decimal.Digits
import TableChart.Proofs.Decimal.Rank

/-!
# The fewest digits round back

* `leadOf_lower`, `leadOf_upper`   a magnitude lies between the powers of ten that `leadOf` names;
* `rank_gridNearest`               the nearer neighbour on the grid of seventeen digits rounds to the
                                   magnitude, so the search for fewer digits may fail;
* `rank_shortestDecimal`           what is found rounds to the magnitude.

Multiples of `10 ^ x` are counted in `gridDen x`: the magnitude is `gridNum r x`, and a decimal with
exponent `x` is its coefficient times `gridDen x`.  Seventeen digits suffice as `2 ^ 53` is less than
`10 ^ 16`.
-/

namespace TableChart

/-! ## grids -/

theorem gridNum_eq (r : Nat) (x : Int) : gridNum r x = units r * 10 ^ (-x).toNat := rfl

theorem gridDen_eq (x : Int) : gridDen x = unitsInOne * 10 ^ x.toNat := by
  simp only [gridDen, two_pow_eq]
  rfl

theorem gridDen_pos (x : Int) : 0 < gridDen x := by
  rw [gridDen_eq]
  exact Nat.mul_pos unitsInOne_pos (Nat.pow_pos (by omega))

theorem gridNum_shift (r : Nat) (x : Int) (k : Nat) :
    gridNum r (x - k) * gridDen x = 10 ^ k * gridNum r x * gridDen (x - k) := by
  have places : (-(x - k)).toNat + x.toNat = k + (-x).toNat + (x - k).toNat := by omega
  simp only [gridNum_eq, gridDen_eq]
  calc units r * 10 ^ (-(x - k)).toNat * (unitsInOne * 10 ^ x.toNat)
      = units r * unitsInOne * 10 ^ ((-(x - k)).toNat + x.toNat) := by ring
    _ = units r * unitsInOne * 10 ^ (k + (-x).toNat + (x - k).toNat) := by rw [places]
    _ = 10 ^ k * (units r * 10 ^ (-x).toNat) * (unitsInOne * 10 ^ (x - k).toNat) := by ring

/-! ## the first digit -/

theorem leadOf_eq (r : Nat) :
    leadOf r = if unitsInOne ≤ units r then (digitCount (units r / unitsInOne) : Int)
      else 1 - (digitCount ((unitsInOne - 1) / units r) : Int) := by
  simp only [leadOf, two_pow_eq]

section
variable {r : Nat} (h : 0 < r)
include h

theorem leadOf_lower : gridDen (leadOf r - 1) ≤ gridNum r (leadOf r - 1) := by
  have hu := units_pos h
  have one := unitsInOne_pos
  rw [gridDen_eq, gridNum_eq, leadOf_eq]
  split
  · rename_i large
    have hn : 0 < units r / unitsInOne := Nat.div_pos large one
    have le := (Nat.le_div_iff_mul_le one).mp (pow_digitCount_le hn)
    have places : ((digitCount (units r / unitsInOne) : Int) - 1).toNat
        = digitCount (units r / unitsInOne) - 1 := by omega
    have hd := digitCount_pos (units r / unitsInOne)
    have none : (-((digitCount (units r / unitsInOne) : Int) - 1)).toNat = 0 := by omega
    rw [places, none, Nat.mul_comm]
    omega
  · rename_i small
    have lt := (Nat.div_lt_iff_lt_mul hu).mp (lt_pow_digitCount ((unitsInOne - 1) / units r))
    generalize digitCount ((unitsInOne - 1) / units r) = k at lt ⊢
    have places : (-(1 - (k : Int) - 1)).toNat = k ∧ (1 - (k : Int) - 1).toNat = 0 := by omega
    rw [places.1, places.2, Nat.mul_comm (units r)]
    omega

theorem leadOf_upper : gridNum r (leadOf r) < gridDen (leadOf r) := by
  have hu := units_pos h
  have one := unitsInOne_pos
  rw [gridDen_eq, gridNum_eq, leadOf_eq]
  split
  · have lt := (Nat.div_lt_iff_lt_mul one).mp (lt_pow_digitCount (units r / unitsInOne))
    generalize digitCount (units r / unitsInOne) = k at lt ⊢
    have places : (-(k : Int)).toNat = 0 ∧ (k : Int).toNat = k := by omega
    rw [places.1, places.2, Nat.mul_comm unitsInOne]
    omega
  · rename_i small
    have hn : 0 < (unitsInOne - 1) / units r := Nat.div_pos (by omega) hu
    have le := (Nat.le_div_iff_mul_le hu).mp (pow_digitCount_le hn)
    have hd := digitCount_pos ((unitsInOne - 1) / units r)
    generalize digitCount ((unitsInOne - 1) / units r) = k at le hd ⊢
    have places : (-(1 - (k : Int))).toNat = k - 1 ∧ (1 - (k : Int)).toNat = 0 := by omega
    rw [places.1, places.2, Nat.mul_comm (units r)]
    omega

/-- on the grid of `k + 1` digits the magnitude has as many -/
theorem pow_le_gridNum (k : Nat) :
    10 ^ k * gridDen (leadOf r - (k + 1)) ≤ gridNum r (leadOf r - (k + 1)) := by
  have e : leadOf r - (k + 1) = leadOf r - 1 - k := by omega
  have shift := gridNum_shift r (leadOf r - 1) k
  rw [← e] at shift
  refine Nat.le_of_mul_le_mul_right ?_ (gridDen_pos (leadOf r - 1))
  rw [shift, Nat.mul_right_comm]
  exact Nat.mul_le_mul_right _ (Nat.mul_le_mul_left _ (leadOf_lower h))

end

/-! ## ranks on grids -/

theorem rank_of_close {r c : Nat} {x : Int}
    (lower : (2 ^ 54 - 1) * gridNum r x < 2 ^ 54 * (c * gridDen x))
    (upper : 2 ^ 54 * (c * gridDen x) < (2 ^ 54 + 1) * gridNum r x) :
    (⟨c, x⟩ : Decimal).rank = r := by
  have e : c * gridDen x = (⟨c, x⟩ : Decimal).unitsNum := by
    rw [gridDen_eq, Decimal.unitsNum_eq]
    ring
  rw [e] at lower upper
  exact nearestRank_of_close (Decimal.unitsDen_pos _) lower upper

theorem gridAbove_eq (r k : Nat) (x : Int) :
    gridAbove r k x = if gridNum r x / gridDen x + 1 = 10 ^ k then ⟨1, x + k⟩
      else ⟨gridNum r x / gridDen x + 1, x⟩ := rfl

theorem rank_gridAbove (r k : Nat) (x : Int) :
    (gridAbove r k x).rank = (⟨gridNum r x / gridDen x + 1, x⟩ : Decimal).rank := by
  rw [gridAbove_eq]
  split
  · rename_i carry
    rw [carry, ← Decimal.rank_shift 1 k x, Nat.one_mul]
  · rfl

theorem rank_gridNearest {r : Nat} (h : 0 < r) : (gridNearest r 17 (leadOf r - 17)).rank = r := by
  have digits : 10 ^ 16 * gridDen (leadOf r - 17) ≤ gridNum r (leadOf r - 17) := pow_le_gridNum h 16
  have hd := gridDen_pos (leadOf r - 17)
  have split := Nat.div_add_mod (gridNum r (leadOf r - 17)) (gridDen (leadOf r - 17))
  have rest := Nat.mod_lt (gridNum r (leadOf r - 17)) hd
  rw [Nat.mul_comm] at split
  unfold gridNearest
  split
  · refine rank_of_close ?_ ?_ <;> omega
  · rw [rank_gridAbove]
    refine rank_of_close ?_ ?_ <;> rw [Nat.succ_mul] <;> omega

theorem onGrid?_eq (r k : Nat) :
    onGrid? r k = [gridNearest r k (leadOf r - k), gridBelow r (leadOf r - k),
      gridAbove r k (leadOf r - k)].find? fun d => d.rank == r := rfl

theorem rank_of_onGrid? {r k : Nat} {d : Decimal} (h : onGrid? r k = some d) : d.rank = r := by
  rw [onGrid?_eq] at h
  have hit := List.find?_some h
  exact beq_iff_eq.mp hit

/-- **The digits that are chosen round back.** -/
theorem rank_shortestDecimal {r : Nat} (h : 0 < r) : (shortestDecimal r).rank = r := by
  rw [shortestDecimal]
  cases hf : (List.range' 1 17).findSome? (onGrid? r) with
  | none =>
    rw [Option.getD_none]
    exact rank_gridNearest h
  | some d =>
    rw [Option.getD_some]
    obtain ⟨k, -, hk⟩ := List.exists_of_findSome?_eq_some hf
    exact rank_of_onGrid? hk

end TableChart
