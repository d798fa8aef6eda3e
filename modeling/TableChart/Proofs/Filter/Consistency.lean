import TableChart.Filter.Condition
import TableChart.Proofs.Decimal.Canonical

/-!
# Operators against each other

* `Condition.holdsOfCell_eq_orders`   between two numbers an ordering operator orders them, and off
                                      numbers it does not hold (`holdsOfCell_of_no_number`);
* `Condition.holds_iff`               the two together, for a record;
* `Value.exists_finite`               the number of a token is finite, so two of them have an order;
* `Value.readNumber?_toText`          the text of a value that has a number is read as a number at
                                      the same place, so a cell that is equal to it stands there;
* `Condition.operators_agree`         what the six operators say of one cell agrees.
-/

namespace TableChart

/-! ## values of tokens -/

namespace Value

theorem exists_finite {token : List Char} (h : (ofToken token).toNumber? ≠ none) :
    ∃ y : Finite64, (ofToken token).toNumber? = some (.finite y) := by
  have ofText {s : String} (h : (text s).toNumber? ≠ none) :
      ∃ y : Finite64, (text s).toNumber? = some (.finite y) := by
    obtain ⟨y, hy⟩ := Option.ne_none_iff_exists'.mp h
    obtain ⟨x, read, rfl⟩ := Option.map_eq_some_iff.mp hy
    exact ⟨x, hy⟩
  unfold ofToken at h ⊢
  dsimp only at h ⊢
  split at h
  · exact ofText h
  · split at h
    · exact ⟨_, rfl⟩
    · exact ofText h

theorem readNumber?_toText {v : Value} {y : Finite64} (h : v.toNumber? = some (.finite y)) :
    ∃ x, readNumber? v.toText = some x ∧ x.position = y.position := by
  cases v with
  | text s =>
    obtain ⟨x, read, same⟩ := Option.map_eq_some_iff.mp h
    exact ⟨x, read, congrArg Finite64.position (Binary64.finite.inj same)⟩
  | number x =>
    rw [Option.some.inj h]
    exact ⟨y.withoutZeroSign, readNumber?_canonical y, y.position_withoutZeroSign⟩

end Value

/-! ## operators on a cell -/

namespace Condition
variable {column cell : String} {op : Operator} {v : Value}

theorem holdsOfCell_eq_orders (numeric : op.isNumeric) {x : Finite64} {y : Binary64}
    (hx : readNumber? cell = some x) (hy : v.toNumber? = some y) :
    (Condition.mk column op v).holdsOfCell cell = op.orders (.finite x) y := by
  cases op with
  | equal | notEqual => cases numeric
  | _ =>
    unfold holdsOfCell
    simp only [hx, hy]

theorem holdsOfCell_of_no_number (numeric : op.isNumeric)
    (h : readNumber? cell = none ∨ v.toNumber? = none) :
    (Condition.mk column op v).holdsOfCell cell = false := by
  cases op with
  | equal | notEqual => cases numeric
  | _ =>
    rcases h with none_in_cell | none_in_value
    · simp only [holdsOfCell, none_in_cell]
    · cases read : readNumber? cell <;> simp only [holdsOfCell, read, none_in_value]

theorem holds_of_cell {r : Record} (h : r.cell? column = some cell) :
    (Condition.mk column op v).holds r = (Condition.mk column op v).holdsOfCell cell := by
  unfold holds
  rw [h]

theorem holds_iff {r : Record} (numeric : op.isNumeric) {y : Binary64} (hy : v.toNumber? = some y) :
    (Condition.mk column op v).holds r ↔ ∃ cell x, r.cell? column = some cell ∧
      readNumber? cell = some x ∧ op.orders (.finite x) y := by
  cases present : r.cell? column with
  | none =>
    unfold holds
    rw [present]
    exact ⟨nofun, nofun⟩
  | some cell =>
    rw [holds_of_cell present]
    cases hx : readNumber? cell with
    | none =>
      rw [holdsOfCell_of_no_number numeric (Or.inl hx)]
      refine ⟨nofun, ?_⟩
      rintro ⟨_, _, ⟨⟩, read, -⟩
      cases hx.symm.trans read
    | some x =>
      rw [holdsOfCell_eq_orders numeric hx hy]
      refine ⟨fun ordered => ⟨cell, x, rfl, hx, ordered⟩, ?_⟩
      rintro ⟨_, _, ⟨⟩, read, ordered⟩
      cases hx.symm.trans read
      exact ordered

/-- a cell that is equal to a value stands where the number of the value stands -/
theorem exists_position_of_equal {y : Finite64} (hy : v.toNumber? = some (.finite y))
    (h : (Condition.mk column .equal v).holdsOfCell cell) :
    ∃ x, readNumber? cell = some x ∧ x.position = y.position := by
  have same : cell = v.toText := beq_iff_eq.mp h
  exact same ▸ Value.readNumber?_toText hy

/-- the four orderings of two numbers -/
theorem holdsOfCell_numbers (column : String) {x y : Finite64} (hx : readNumber? cell = some x)
    (hy : v.toNumber? = some (.finite y)) :
    (Condition.mk column .lessThan v).holdsOfCell cell = decide (x.position < y.position) ∧
    (Condition.mk column .greaterThan v).holdsOfCell cell = decide (y.position < x.position) ∧
    (Condition.mk column .lessOrEqual v).holdsOfCell cell = !decide (y.position < x.position) ∧
    (Condition.mk column .greaterOrEqual v).holdsOfCell cell = !decide (x.position < y.position) := by
  have opposite (a b : Int) : decide (b ≤ a) = !decide (a < b) :=
    (decide_eq_decide.mpr Int.not_lt.symm).trans decide_not
  refine ⟨?_, ?_, ?_, ?_⟩ <;> rw [holdsOfCell_eq_orders rfl hx hy]
  · rfl
  · rfl
  · exact opposite y.position x.position
  · exact opposite x.position y.position

/-- **What the six operators say of one record agrees.**  None holds of an absent column.  Of a cell
either `==` holds or `!=`.  Between two numbers `>=` is the opposite of `<` and `<=` that of `>`, and
`<` and `>` do not both hold; off numbers no ordering holds.  What is equal to a number is neither
below nor above it, though the one is told by texts and the other by numbers. -/
theorem operators_agree (r : Record) (column : String) (token : List Char) :
    let v := Value.ofToken token
    let holds (op : Operator) := (Condition.mk column op v).holds r
    (r.cell? column = none → ∀ op, holds op = false) ∧
    ∀ cell, r.cell? column = some cell →
      holds .notEqual = !holds .equal ∧
      (readNumber? cell ≠ none → v.toNumber? ≠ none →
        holds .greaterOrEqual = !holds .lessThan ∧ holds .lessOrEqual = !holds .greaterThan ∧
        (holds .lessThan && holds .greaterThan) = false) ∧
      (readNumber? cell = none ∨ v.toNumber? = none → ∀ op, op.isNumeric → holds op = false) ∧
      (holds .equal → v.toNumber? ≠ none →
        holds .greaterOrEqual ∧ holds .lessOrEqual ∧
        holds .lessThan = false ∧ holds .greaterThan = false) := by
  intro v holds
  refine ⟨fun absent op => ?_, fun cell present => ?_⟩
  · show (Condition.mk column op v).holds r = false
    unfold Condition.holds
    rw [absent]
  have onCell (op : Operator) : holds op = (Condition.mk column op v).holdsOfCell cell :=
    holds_of_cell present
  simp only [onCell]
  refine ⟨rfl, fun hx hy => ?_, fun off op numeric => holdsOfCell_of_no_number numeric off,
    fun equal hy => ?_⟩
  · obtain ⟨x, hx⟩ := Option.ne_none_iff_exists'.mp hx
    obtain ⟨y, hy⟩ := Value.exists_finite hy
    obtain ⟨lt, gt, le, ge⟩ := holdsOfCell_numbers column hx hy
    rw [lt, gt, le, ge]
    refine ⟨rfl, rfl, Bool.eq_false_iff.mpr fun both => ?_⟩
    rw [Bool.and_eq_true, decide_eq_true_eq, decide_eq_true_eq] at both
    omega
  · obtain ⟨y, hy⟩ := Value.exists_finite hy
    obtain ⟨x, hx, same⟩ := exists_position_of_equal hy equal
    obtain ⟨lt, gt, le, ge⟩ := holdsOfCell_numbers column hx hy
    rw [lt, gt, le, ge, same]
    simp

/-- `0` is equal to the token `-0.0`, and between the two zeros no ordering is strict -/
theorem operators_agree_zeros :
    let r : Record := ⟨[("n", "0")]⟩
    let v := Value.ofToken "-0.0".toList
    r.cell? "n" = some "0" ∧ v.toNumber? = some (.finite Finite64.negativeZero) ∧
      (Condition.mk "n" .equal v).holds r ∧ (Condition.mk "n" .notEqual v).holds r = false ∧
      (Condition.mk "n" .greaterOrEqual v).holds r ∧ (Condition.mk "n" .lessOrEqual v).holds r ∧
      (Condition.mk "n" .lessThan v).holds r = false ∧
      (Condition.mk "n" .greaterThan v).holds r = false := by
  intro r v
  have number : v.toNumber? = some (.finite Finite64.negativeZero) := by decide
  have equal : (Condition.mk "n" .equal v).holds r := by decide
  obtain ⟨either, -, -, ordered⟩ := (operators_agree r "n" "-0.0".toList).2 "0" rfl
  obtain ⟨ge, le, lt, gt⟩ := ordered equal (Option.ne_none_iff_exists'.mpr ⟨_, number⟩)
  exact ⟨rfl, number, equal, either.trans (congrArg not equal), ge, le, lt, gt⟩

end Condition

end TableChart
