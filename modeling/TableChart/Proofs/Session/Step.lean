import TableChart.Session

/-!
# What one event does

* `after_dataLoaded_cases`, `after_loadFailed_cases`   an outcome is taken for the newest load, and
                                                       dropped for any other;
* `after_accepted`, `after_refused`                    a filter is put in force, or the reason why
                                                       it is not is told.
-/

namespace TableChart.Session

variable (s : Session)

/-! ## outcomes -/

theorem after_dataLoaded_cases (generation : Nat) (data : Dataset) :
    generation = s.generation ∧ s.after (.dataLoaded generation data) = s.showDataset data ∨
      generation ≠ s.generation ∧ s.after (.dataLoaded generation data) = s := by
  by_cases current : generation = s.generation
  · exact Or.inl ⟨current, if_pos current⟩
  · exact Or.inr ⟨current, if_neg current⟩

theorem after_loadFailed_cases (generation : Nat) (message : String) :
    generation = s.generation ∧ s.after (.loadFailed generation message)
        = { s with loading := false, loadError := some message } ∨
      generation ≠ s.generation ∧ s.after (.loadFailed generation message) = s := by
  by_cases current : generation = s.generation
  · exact Or.inl ⟨current, if_pos current⟩
  · exact Or.inr ⟨current, if_neg current⟩

/-! ## filters -/

section
variable {expression : String}

theorem after_accepted (h : filterFault? expression = none) :
    s.after (.filterSubmitted expression)
      = checked { s with filter := expression, filterError := none } := by
  show s.submitFilter expression = _
  unfold submitFilter
  rw [h]

theorem after_refused {f : FilterFault} (h : filterFault? expression = some f) :
    s.after (.filterSubmitted expression) = { s with filterError := some f.message } := by
  show s.submitFilter expression = _
  unfold submitFilter
  rw [h]

end

theorem after_filterSubmitted_cases (expression : String) :
    (∃ message,
      s.after (.filterSubmitted expression) = { s with filterError := some message }) ∨
    s.after (.filterSubmitted expression)
      = checked { s with filter := expression, filterError := none } := by
  cases h : filterFault? expression with
  | none => exact Or.inr (s.after_accepted h)
  | some f => exact Or.inl ⟨_, s.after_refused h⟩

end TableChart.Session
