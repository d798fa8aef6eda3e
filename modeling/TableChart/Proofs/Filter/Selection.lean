import TableChart.Filter.Expression

/-!
# Selection by an accepted expression

An expression is accepted if it is blank or can be read.  Selection by it cannot fail, and what is
selected are records of the table in their order.
-/

namespace TableChart

theorem filterFault?_eq_none_iff (expression : String) :
    filterFault? expression = none ↔
      isBlankText expression ∨ ∃ c, Condition.read expression = .ok c := by
  unfold filterFault?
  by_cases blank : isBlankText expression
  · simp [blank]
  · cases Condition.read expression <;> simp [blank]

theorem selectRecords_of_accepted {expression : String} (h : filterFault? expression = none)
    (records : List Record) :
    ∃ keep : Record → Bool, selectRecords records expression = .ok (records.filter keep) := by
  unfold selectRecords
  by_cases blank : isBlankText expression
  · refine ⟨fun _ => true, ?_⟩
    rw [if_pos blank, List.filter_eq_self.mpr fun _ _ => rfl]
  · obtain ⟨c, hc⟩ := ((filterFault?_eq_none_iff expression).mp h).resolve_left blank
    refine ⟨c.holds, ?_⟩
    rw [if_neg blank, hc]
    rfl

theorem selectRecords_of_read {expression : String} {c : Condition}
    (h : Condition.read expression = .ok c) (records : List Record) :
    selectRecords records expression = .ok (records.filter c.holds) := by
  have some : ¬ isBlankText expression := by
    intro blank
    unfold Condition.read at h
    rw [if_pos blank] at h
    cases h
  unfold selectRecords
  rw [if_neg some, h]
  rfl

end TableChart
