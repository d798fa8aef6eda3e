import TableChart.Binary64.Nearest
import TableChart.Proofs.Binary64.Units

/-!
# Rounding among the magnitudes

* `RoundsTo num den r`   the quotient lies between the halves next to rank `r`, or on one of them if
                         `r` is even;
* `nearestRank_eq_iff`   the nearest rank is the one rank that the quotient rounds to;
* `nearestRank_congr`, `nearestRank_mono`   it depends on the value of the quotient alone, and is
                         ordered as the values are;
* `nearestRank_exact`    a magnitude is its own nearest;
* `nearestRank_of_close` a quotient within `2^-54` of a magnitude, in proportion, rounds to it.

A half is the sum of two neighbouring magnitudes over two.  The remainder of the rank by two is
added on the smaller side, so that an odd rank has to stay off the halves.
-/

namespace TableChart

/-! ## quotients to whole numbers -/

section
variable (num : Nat) {den : Nat}

theorem roundHalfEven_cases (den : Nat) :
    (2 * (num % den) < den ∧ roundHalfEven num den = num / den) ∨
    (den < 2 * (num % den) ∧ roundHalfEven num den = num / den + 1) ∨
    (2 * (num % den) = den ∧ roundHalfEven num den = num / den + num / den % 2) := by
  rcases Nat.lt_trichotomy (2 * (num % den)) den with low | half | high
  · exact Or.inl ⟨low, if_pos low⟩
  · refine Or.inr (Or.inr ⟨half, ?_⟩)
    exact (if_neg (by omega)).trans (if_neg (by omega))
  · refine Or.inr (Or.inl ⟨high, ?_⟩)
    exact (if_neg (by omega)).trans (if_pos high)

theorem roundHalfEven_upper (h : 0 < den) :
    2 * num + roundHalfEven num den % 2 ≤ (2 * roundHalfEven num den + 1) * den := by
  have hq : den * (num / den) + num % den = num := Nat.div_add_mod num den
  have e (m : Nat) : (2 * m + 1) * den = 2 * (den * m) + den := by ring
  rw [e]
  rcases roundHalfEven_cases num den with ⟨low, m⟩ | ⟨high, m⟩ | ⟨half, m⟩
  · rw [m]
    omega
  · have hr : num % den < den := Nat.mod_lt _ h
    rw [m, Nat.mul_succ]
    omega
  · rw [m, Nat.mul_add]
    rcases Nat.mod_two_eq_zero_or_one (num / den) with p | p <;> rw [p] <;> omega

theorem roundHalfEven_lower (h : 0 < den) :
    2 * roundHalfEven num den * den + roundHalfEven num den % 2 ≤ 2 * num + den := by
  have hq : den * (num / den) + num % den = num := Nat.div_add_mod num den
  have e (m : Nat) : 2 * m * den = 2 * (den * m) := by ring
  rw [e]
  rcases roundHalfEven_cases num den with ⟨low, m⟩ | ⟨high, m⟩ | ⟨half, m⟩
  · rw [m]
    omega
  · rw [m, Nat.mul_succ]
    omega
  · rw [m, Nat.mul_add]
    rcases Nat.mod_two_eq_zero_or_one (num / den) with p | p <;> rw [p] <;> omega

variable {num} in
theorem roundHalfEven_le {k : Nat} (h : 0 < den) (hk : num < k * den) :
    roundHalfEven num den ≤ k := by
  by_contra hm
  have lower := roundHalfEven_lower num h
  have grows : (k + 1) * den ≤ roundHalfEven num den * den := Nat.mul_le_mul_right _ (by omega)
  rw [Nat.succ_mul] at grows
  rw [Nat.mul_assoc] at lower
  omega

variable {num} in
theorem le_roundHalfEven {k : Nat} (h : 0 < den) (hk : k * den ≤ num) :
    k ≤ roundHalfEven num den := by
  by_contra hm
  have upper := roundHalfEven_upper num h
  have grows : (roundHalfEven num den + 1) * den ≤ k * den := Nat.mul_le_mul_right _ (by omega)
  have e : (2 * roundHalfEven num den + 1) * den + den = 2 * ((roundHalfEven num den + 1) * den) := by
    ring
  omega

end

/-! ## quotients to ranks -/

structure RoundsTo (num den r : Nat) : Prop where
  lower : (units (r - 1) + units r) * den + r % 2 ≤ 2 * num
  upper : 2 * num + r % 2 ≤ (units r + units (r + 1)) * den

/-- rounding on the grid of a binade is rounding among the magnitudes -/
theorem roundsTo_grid {num den e : Nat} (h : 0 < den)
    (lo : e = 0 ∨ 2 ^ 52 * (den * 2 ^ e) ≤ num) (hi : num < 2 ^ 53 * (den * 2 ^ e)) :
    RoundsTo num den (e * 2 ^ 52 + roundHalfEven num (den * 2 ^ e)) := by
  have hd : 0 < den * 2 ^ e := Nat.mul_pos h (Nat.two_pow_pos e)
  have upper := roundHalfEven_upper num hd
  have lower := roundHalfEven_lower num hd
  have mlo : e = 0 ∨ 2 ^ 52 ≤ roundHalfEven num (den * 2 ^ e) := lo.imp_right (le_roundHalfEven hd)
  have mhi := roundHalfEven_le hd hi
  generalize roundHalfEven num (den * 2 ^ e) = m at upper lower mlo mhi ⊢
  have parity : (e * 2 ^ 52 + m) % 2 = m % 2 := by omega
  have here : units (e * 2 ^ 52 + m) = m * 2 ^ e := units_grid mlo mhi
  constructor
  · rw [parity, here]
    by_cases bottom : m = 0 ∨ (e ≠ 0 ∧ m = 2 ^ 52)
    · -- no half below zero, and below a power of two it is nearer than on the grid
      have below : units (e * 2 ^ 52 + m - 1) ≤ m * 2 ^ e := here ▸ units_le_units (by omega)
      have double : (units (e * 2 ^ 52 + m - 1) + m * 2 ^ e) * den ≤ 2 * (m * (den * 2 ^ e)) := by
        calc (units (e * 2 ^ 52 + m - 1) + m * 2 ^ e) * den
            ≤ (m * 2 ^ e + m * 2 ^ e) * den := Nat.mul_le_mul_right _ (by omega)
          _ = 2 * (m * (den * 2 ^ e)) := by ring
      rcases bottom with rfl | ⟨he, rfl⟩
      · omega
      · have := lo.resolve_left he
        omega
    · have below : units (e * 2 ^ 52 + m - 1) = (m - 1) * 2 ^ e := by
        rw [Nat.add_sub_assoc (by omega)]
        exact units_grid (by omega) (by omega)
      obtain ⟨k, rfl⟩ : ∃ k, m = k + 1 := ⟨m - 1, by omega⟩
      have half : ((k + 1 - 1) * 2 ^ e + (k + 1) * 2 ^ e) * den + den * 2 ^ e
          = 2 * (k + 1) * (den * 2 ^ e) := by
        rw [Nat.add_sub_cancel]
        ring
      rw [below]
      omega
  · rw [parity, here]
    by_cases top : m = 2 ^ 53
    · have above : m * 2 ^ e ≤ units (e * 2 ^ 52 + m + 1) := here ▸ units_le_units (by omega)
      have double : 2 * (m * (den * 2 ^ e)) ≤ (m * 2 ^ e + units (e * 2 ^ 52 + m + 1)) * den := by
        calc 2 * (m * (den * 2 ^ e)) = (m * 2 ^ e + m * 2 ^ e) * den := by ring
          _ ≤ (m * 2 ^ e + units (e * 2 ^ 52 + m + 1)) * den := Nat.mul_le_mul_right _ (by omega)
      rw [top] at double ⊢
      omega
    · have above : units (e * 2 ^ 52 + m + 1) = (m + 1) * 2 ^ e := by
        rw [Nat.add_assoc]
        exact units_grid (by omega) (by omega)
      have half : (m * 2 ^ e + (m + 1) * 2 ^ e) * den = (2 * m + 1) * (den * 2 ^ e) := by ring
      rw [above, half]
      exact upper

theorem nearestRank_eq (num den : Nat) :
    nearestRank num den = (Nat.log2 (num / den) - 52) * 2 ^ 52
      + roundHalfEven num (den * 2 ^ (Nat.log2 (num / den) - 52)) := rfl

theorem roundsTo_nearestRank (num : Nat) {den : Nat} (h : 0 < den) :
    RoundsTo num den (nearestRank num den) := by
  rw [nearestRank_eq]
  generalize he : Nat.log2 (num / den) - 52 = e
  refine roundsTo_grid h ?_ ?_
  · by_cases h0 : e = 0
    · exact Or.inl h0
    · refine Or.inr ?_
      have hq : 2 ^ (52 + e) ≤ num / den := by
        have hl : 52 + e = Nat.log2 (num / den) := by omega
        rw [hl]
        refine Nat.log2_self_le fun hz => ?_
        rw [hz] at hl
        simp at hl
      have := (Nat.le_div_iff_mul_le h).mp hq
      calc 2 ^ 52 * (den * 2 ^ e) = 2 ^ (52 + e) * den := by rw [Nat.pow_add]; ring
        _ ≤ num := this
  · have hq : num / den < 2 ^ (53 + e) :=
      Nat.lt_of_lt_of_le Nat.lt_log2_self (Nat.pow_le_pow_right (by omega) (by omega))
    have := (Nat.div_lt_iff_lt_mul h).mp hq
    calc num < 2 ^ (53 + e) * den := this
      _ = 2 ^ 53 * (den * 2 ^ e) := by rw [Nat.pow_add]; ring

/-! ## the rank is determined -/

namespace RoundsTo
variable {num den num' den' r s : Nat}

/-- the halves above the smaller rank lie below the greater one -/
theorem le_of_le (h : 0 < den) (h' : 0 < den') (hr : RoundsTo num den r)
    (hs : RoundsTo num' den' s) (le : num * den' ≤ num' * den) : r ≤ s := by
  by_contra hlt
  have halves : units s + units (s + 1) ≤ units (r - 1) + units r :=
    Nat.add_le_add (units_le_units (by omega)) (units_le_units (by omega))
  have lower := Nat.mul_le_mul_right den' hr.lower
  have upper := Nat.mul_le_mul_right den hs.upper
  have middle : (units s + units (s + 1)) * den' * den ≤ (units (r - 1) + units r) * den * den' := by
    calc (units s + units (s + 1)) * den' * den
        ≤ (units (r - 1) + units r) * den' * den :=
          Nat.mul_le_mul_right _ (Nat.mul_le_mul_right _ halves)
      _ = (units (r - 1) + units r) * den * den' := by ring
  rw [Nat.add_mul] at lower upper
  have e : 2 * num * den' = 2 * (num * den') := Nat.mul_assoc ..
  have e' : 2 * num' * den = 2 * (num' * den) := Nat.mul_assoc ..
  -- all are equal, so both ranks are even, and a rank lies between them
  have even_r : r % 2 = 0 := by
    by_contra odd
    have : den' ≤ r % 2 * den' := Nat.le_mul_of_pos_left _ (by omega)
    omega
  have even_s : s % 2 = 0 := by
    by_contra odd
    have : den ≤ s % 2 * den := Nat.le_mul_of_pos_left _ (by omega)
    omega
  have strict : units s + units (s + 1) < units (r - 1) + units r :=
    Nat.add_lt_add (units_lt_units (by omega)) (units_lt_units (by omega))
  have : (units s + units (s + 1)) * (den' * den) < (units (r - 1) + units r) * (den' * den) :=
    Nat.mul_lt_mul_of_pos_right strict (Nat.mul_pos h' h)
  have f : (units s + units (s + 1)) * den' * den = (units s + units (s + 1)) * (den' * den) :=
    Nat.mul_assoc ..
  have f' : (units (r - 1) + units r) * den * den' = (units (r - 1) + units r) * (den' * den) := by
    ring
  omega

end RoundsTo

section
variable {num den num' den' r : Nat}

theorem nearestRank_eq_iff (h : 0 < den) : nearestRank num den = r ↔ RoundsTo num den r := by
  constructor
  · rintro rfl
    exact roundsTo_nearestRank num h
  · intro hr
    have hn := roundsTo_nearestRank num h
    exact Nat.le_antisymm (hn.le_of_le h h hr (Nat.le_refl _)) (hr.le_of_le h h hn (Nat.le_refl _))

theorem nearestRank_mono (h : 0 < den) (h' : 0 < den') (le : num * den' ≤ num' * den) :
    nearestRank num den ≤ nearestRank num' den' :=
  (roundsTo_nearestRank num h).le_of_le h h' (roundsTo_nearestRank num' h') le

theorem nearestRank_congr (h : 0 < den) (h' : 0 < den') (e : num * den' = num' * den) :
    nearestRank num den = nearestRank num' den' :=
  Nat.le_antisymm (nearestRank_mono h h' (Nat.le_of_eq e)) (nearestRank_mono h' h (Nat.le_of_eq e.symm))

theorem roundsTo_units (r : Nat) : RoundsTo (units r) 1 r where
  lower := by
    rcases Nat.eq_zero_or_pos r with rfl | h
    · simp [units_zero]
    · have := units_lt_units (show r - 1 < r by omega)
      omega
  upper := by
    have := units_lt_succ r
    omega

/-- a magnitude is met exactly -/
theorem nearestRank_exact (h : 0 < den) (e : num = units r * den) : nearestRank num den = r := by
  have same : num * 1 = units r * den := by rw [Nat.mul_one, e]
  rw [nearestRank_congr h Nat.one_pos same, nearestRank_eq_iff Nat.one_pos]
  exact roundsTo_units r

theorem le_nearestRank (h : 0 < den) (le : units r * den ≤ num) : r ≤ nearestRank num den :=
  (roundsTo_units r).le_of_le Nat.one_pos h (roundsTo_nearestRank num h) (by omega)

/-- in proportion, a half is at least `2 ^ -54` away from the magnitudes next to it -/
theorem nearestRank_of_close (h : 0 < den)
    (lower : (2 ^ 54 - 1) * (units r * den) < 2 ^ 54 * num)
    (upper : 2 ^ 54 * num < (2 ^ 54 + 1) * (units r * den)) : nearestRank num den = r := by
  rw [nearestRank_eq_iff h]
  obtain ⟨s, rfl⟩ : ∃ s, r = s + 1 := by
    refine ⟨r - 1, ?_⟩
    by_contra h0
    obtain rfl : r = 0 := by omega
    rw [units_zero] at upper
    omega
  have scarce := Nat.mul_le_mul_right den (units_succ_le s)
  have wide := Nat.mul_le_mul_right den (units_succ_le (s + 1))
  have below : units (s + 1) * den = units s * den + 2 ^ scale s * den := by
    rw [units_succ, Nat.add_mul]
  have above : units (s + 1 + 1) * den = units (s + 1) * den + 2 ^ scale (s + 1) * den := by
    rw [units_succ, Nat.add_mul]
  rw [Nat.mul_assoc] at scarce wide
  constructor
  · rw [Nat.add_sub_cancel, Nat.add_mul]
    omega
  · rw [Nat.add_mul]
    omega

end

end TableChart
