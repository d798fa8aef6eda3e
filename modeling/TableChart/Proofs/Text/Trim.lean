import TableChart.Text.Blank
import TableChart.Proofs.Text.Run

/-!
# Blank characters and blank ends

* `not_isBlank_of_range`   no visible ASCII character is blank;
* `trim_eq_self`           a text without blank ends is left as it is;
* `getLast?_trim`          what is left has no blank end;
* `trim_eq_nil_iff`        nothing is left of blanks alone;
* `trim_enclosed`          blanks on both sides are dropped, and no others are (`exists_trim`).
-/

namespace TableChart.Text

theorem not_isBlank_of_range {c : Char} (lo : 0x20 < c.toNat) (hi : c.toNat < 0x7F) : ¬ isBlank c := by
  simp only [isBlank, Bool.or_eq_true, Bool.and_eq_true, decide_eq_true_eq, beq_iff_eq]
  omega

theorem isBlank_of_mem_space : ∀ c ∈ [' '], isBlank c := List.forall_mem_singleton.mpr rfl

theorem trim_eq_self {cs : List Char} (first : ∀ c ∈ cs.head?, ¬ isBlank c)
    (last : ∀ c ∈ cs.getLast?, ¬ isBlank c) : trim cs = cs := by
  have back : ∀ c ∈ cs.reverse.head?, ¬ isBlank c := by
    rw [List.head?_reverse]
    exact last
  rw [trim, dropWhile_eq_self first, dropWhile_eq_self back, List.reverse_reverse]

theorem trim_eq_self_of_forall {cs : List Char} (h : ∀ c ∈ cs, ¬ isBlank c) : trim cs = cs :=
  trim_eq_self (fun c hc => h c (List.mem_of_head? hc)) fun c hc => h c (List.mem_of_getLast? hc)

theorem getLast?_trim {cs : List Char} : ∀ c ∈ (trim cs).getLast?, ¬ isBlank c := by
  rw [trim, List.getLast?_reverse]
  exact head?_dropWhile_of_neg isBlank _

theorem mem_of_mem_trim {cs : List Char} {c : Char} (h : c ∈ trim cs) : c ∈ cs := by
  rw [trim, List.mem_reverse] at h
  have h := (List.dropWhile_sublist _).subset h
  rw [List.mem_reverse] at h
  exact (List.dropWhile_sublist _).subset h

theorem trim_eq_nil_iff {cs : List Char} : trim cs = [] ↔ ∀ c ∈ cs, isBlank c := by
  rw [trim, List.reverse_eq_nil_iff, List.dropWhile_eq_nil_iff]
  constructor
  · intro h
    have none : cs.dropWhile isBlank = [] := by
      by_contra some
      obtain ⟨c, rest, hc⟩ := List.exists_cons_of_ne_nil some
      have blank := h c (List.mem_reverse.mpr (hc ▸ List.mem_cons_self))
      exact head?_dropWhile_of_neg isBlank cs c (by rw [hc]; rfl) blank
    exact List.dropWhile_eq_nil_iff.mp none
  · intro h c hc
    exact h c ((List.dropWhile_sublist _).subset (List.mem_reverse.mp hc))

theorem trim_enclosed {front text back : List Char} (before : ∀ c ∈ front, isBlank c)
    (behind : ∀ c ∈ back, isBlank c) (some : text ≠ []) (first : ∀ c ∈ text.head?, ¬ isBlank c)
    (last : ∀ c ∈ text.getLast?, ¬ isBlank c) : trim (front ++ (text ++ back)) = text := by
  have head : ∀ c ∈ (text ++ back).head?, ¬ isBlank c := by
    obtain ⟨c, cs, rfl⟩ := List.exists_cons_of_ne_nil some
    exact first
  have tail : ∀ c ∈ text.reverse.head?, ¬ isBlank c := by
    rw [List.head?_reverse]
    exact last
  rw [trim, dropWhile_run before head, List.reverse_append,
    dropWhile_run (fun c hc => behind c (List.mem_reverse.mp hc)) tail, List.reverse_reverse]

theorem exists_trim (cs : List Char) :
    ∃ front back, front ++ (trim cs ++ back) = cs ∧
      (∀ c ∈ front, isBlank c) ∧ ∀ c ∈ back, isBlank c := by
  refine ⟨cs.takeWhile isBlank, ((cs.dropWhile isBlank).reverse.takeWhile isBlank).reverse, ?_,
    fun _ => List.mem_takeWhile_imp, fun c hc => List.mem_takeWhile_imp (List.mem_reverse.mp hc)⟩
  rw [trim, ← List.reverse_append, List.takeWhile_append_dropWhile, List.reverse_reverse,
    List.takeWhile_append_dropWhile]

end TableChart.Text
