import Mathlib.Data.List.TakeWhile

/-!
# Runs

A run of characters of one class ends where a character of another class begins.

* `takeWhile_run`, `dropWhile_run`   the run in front of a text, and what follows it;
* `cut_induction`                    a list is a run without separators, or one in front of a separator.
-/

namespace TableChart.Text

section
variable {α : Type} {p : α → Bool} {run rest : List α}

theorem takeWhile_run (h : ∀ a ∈ run, p a) (stop : ∀ a ∈ rest.head?, ¬ p a) :
    (run ++ rest).takeWhile p = run := by
  rw [List.takeWhile_append_of_pos h]
  cases rest with
  | nil => exact List.append_nil _
  | cons a as => rw [List.takeWhile_cons_of_neg (stop a rfl), List.append_nil]

theorem dropWhile_eq_self (stop : ∀ a ∈ rest.head?, ¬ p a) : rest.dropWhile p = rest := by
  cases rest with
  | nil => rfl
  | cons a as => rw [List.dropWhile_cons_of_neg (stop a rfl)]

theorem dropWhile_run (h : ∀ a ∈ run, p a) (stop : ∀ a ∈ rest.head?, ¬ p a) :
    (run ++ rest).dropWhile p = rest := by
  rw [List.dropWhile_append_of_pos h, dropWhile_eq_self stop]

theorem head?_dropWhile_of_neg (p : α → Bool) (as : List α) :
    ∀ a ∈ (as.dropWhile p).head?, ¬ p a := by
  intro a ha
  have head := List.head?_dropWhile_not p as
  rw [ha] at head
  exact Bool.eq_false_iff.mp head

theorem forall_head?_append {P : α → Prop} (h : ∀ a ∈ run, P a) (h' : ∀ a ∈ rest.head?, P a) :
    ∀ a ∈ (run ++ rest).head?, P a := by
  cases run with
  | nil => exact h'
  | cons a as =>
    rintro _ ⟨⟩
    exact h a List.mem_cons_self

end

/-- `p` holds of the separators -/
theorem cut_induction {α : Type} {p : α → Prop} {P : List α → Prop}
    (last : ∀ piece, (∀ a ∈ piece, ¬ p a) → P piece)
    (cut : ∀ piece a rest, (∀ a ∈ piece, ¬ p a) → p a → P rest → P (piece ++ a :: rest))
    (as : List α) : P as := by
  suffices all : ∀ piece, (∀ a ∈ piece, ¬ p a) → P (piece ++ as) from all [] (List.forall_mem_nil _)
  induction as with
  | nil =>
    intro piece h
    rw [List.append_nil]
    exact last piece h
  | cons a as ih =>
    intro piece h
    by_cases sep : p a
    · exact cut piece a as h sep (ih [] (List.forall_mem_nil _))
    · rw [List.append_cons]
      exact ih (piece ++ [a]) (List.forall_mem_append.mpr ⟨h, List.forall_mem_singleton.mpr sep⟩)

end TableChart.Text
