import Mathlib.Data.List.Nodup
import TableChart.Repeats

/-!
# Repeated elements

A place of a list repeats an earlier one, or is the first of its element.

* `laterPlaces`, `firstPlaces`   the two kinds of places, with the elements that stand there;
* `repeats_eq`                   the repeats are the elements at the later places, in order;
* `firstPlaces_snd`              the first place of an element is where a search finds it, so what is left
                                 without the later places is each value once, in the order of the list;
* `count_repeats`                a value is repeated once less than it occurs;
* `repeats_eq_nil_iff`           there are no repeats exactly in a list of different elements;
* `RepeatsOf`                    all of this about one list.
-/

namespace TableChart

section
variable {α : Type} [DecidableEq α]

/-! ## places -/

def laterPlaces (l : List α) : List (α × Nat) := l.zipIdx.filter fun p => p.1 ∈ l.take p.2

def firstPlaces (l : List α) : List (α × Nat) := l.zipIdx.filter fun p => p.1 ∉ l.take p.2

theorem idxOf_le_of_mem_zipIdx {l : List α} {p : α × Nat} (h : p ∈ l.zipIdx) :
    p.1 ∈ l ∧ l.idxOf p.1 ≤ p.2 := by
  have here := List.mem_zipIdx_iff_getElem?.mp h
  have among : p.1 ∈ l.take (p.2 + 1) :=
    List.mem_of_getElem? ((List.getElem?_take_of_lt (Nat.lt_succ_self p.2)).trans here)
  have mem := List.mem_of_mem_take among
  exact ⟨mem, Nat.le_of_lt_succ ((List.mem_take_iff_idxOf_lt mem).mp among)⟩

theorem firstPlaces_snd {l : List α} {p : α × Nat} (h : p ∈ firstPlaces l) :
    p.2 = l.idxOf p.1 := by
  obtain ⟨place, first⟩ := List.mem_filter.mp h
  obtain ⟨mem, le⟩ := idxOf_le_of_mem_zipIdx place
  rw [decide_eq_true_eq, List.mem_take_iff_idxOf_lt mem] at first
  omega

theorem mem_firstPlaces_fst {l : List α} {x : α} : x ∈ (firstPlaces l).map Prod.fst ↔ x ∈ l := by
  constructor
  · intro h
    obtain ⟨p, hp, rfl⟩ := List.mem_map.mp h
    exact (idxOf_le_of_mem_zipIdx (List.mem_of_mem_filter hp)).1
  · intro h
    refine List.mem_map.mpr ⟨(x, l.idxOf x), List.mem_filter.mpr ⟨?_, decide_eq_true ?_⟩, rfl⟩
    · exact List.mk_mem_zipIdx_iff_getElem?.mpr (List.getElem?_idxOf h)
    · rw [List.mem_take_iff_idxOf_lt h]
      exact Nat.lt_irrefl _

theorem pairwise_firstPlaces (l : List α) :
    ((firstPlaces l).map Prod.fst).Pairwise fun x y => l.idxOf x < l.idxOf y := by
  have increasing : l.zipIdx.Pairwise fun p q => p.2 < q.2 := by
    rw [← List.pairwise_map, List.zipIdx_map_snd]
    exact List.pairwise_lt_range'
  refine List.pairwise_map.mpr ((increasing.filter _).imp_of_mem fun hp hq before => ?_)
  rwa [firstPlaces_snd hp, firstPlaces_snd hq] at before

theorem nodup_firstPlaces (l : List α) : ((firstPlaces l).map Prod.fst).Nodup :=
  (pairwise_firstPlaces l).imp fun before same => by simp [same] at before

/-- every place is of one kind -/
theorem count_places (l : List α) (x : α) :
    ((laterPlaces l).map Prod.fst).count x + ((firstPlaces l).map Prod.fst).count x = l.count x := by
  have parted := (List.filter_append_perm (fun p => decide (p.1 ∈ l.take p.2)) l.zipIdx).map Prod.fst
  have first : firstPlaces l = l.zipIdx.filter fun p => !decide (p.1 ∈ l.take p.2) :=
    List.filter_congr fun p _ => decide_not
  rw [List.zipIdx_map_fst, List.map_append] at parted
  rw [first, ← List.count_append]
  exact parted.count_eq x

/-! ## repeats -/

/-- the elements seen are those of the part of the list in front -/
theorem repeatsAfter_eq {seen before : List α} (h : ∀ x, x ∈ seen ↔ x ∈ before) (l : List α) :
    repeatsAfter seen l =
      ((l.zipIdx before.length).filter fun p => p.1 ∈ (before ++ l).take p.2).map Prod.fst := by
  induction l generalizing seen before with
  | nil => rfl
  | cons x xs ih =>
    have here : (before ++ x :: xs).take before.length = before := List.take_left
    have next : (before ++ [x]).length = before.length + 1 := List.length_append
    rw [repeatsAfter, List.zipIdx_cons]
    by_cases again : x ∈ seen
    · have same : ∀ y, y ∈ seen ↔ y ∈ before ++ [x] := by
        intro y
        rw [List.mem_append, ← h, List.mem_singleton]
        exact ⟨Or.inl, fun hy => hy.elim id fun e => e ▸ again⟩
      rw [if_pos again, List.filter_cons_of_pos (by rwa [here, decide_eq_true_eq, ← h]), List.map_cons,
        ih same, next, ← List.append_cons]
    · have same : ∀ y, y ∈ x :: seen ↔ y ∈ before ++ [x] := by
        intro y
        rw [List.mem_append, List.mem_cons, h, List.mem_singleton, or_comm]
      rw [if_neg again, List.filter_cons_of_neg (by rwa [here, decide_eq_true_eq, ← h]), ih same, next,
        ← List.append_cons]

theorem repeats_eq (l : List α) : repeats l = (laterPlaces l).map Prod.fst :=
  repeatsAfter_eq (fun _ => Iff.rfl) l

theorem count_repeats (l : List α) (x : α) : (repeats l).count x = l.count x - 1 := by
  have places := count_places l x
  have once := (nodup_firstPlaces l).count (a := x)
  rw [repeats_eq]
  by_cases hx : x ∈ l
  · rw [if_pos (mem_firstPlaces_fst.mpr hx)] at once
    omega
  · have never := List.count_eq_zero.mpr hx
    omega

theorem repeats_eq_nil_iff (l : List α) : repeats l = [] ↔ l.Nodup := by
  simp only [List.eq_nil_iff_forall_not_mem, ← List.count_eq_zero, count_repeats,
    List.nodup_iff_count_le_one, Nat.sub_eq_zero_iff_le]

/-- `r` holds what stands at the later places of `l`; what stands at the other places is each value of
`l` once, in the order in which they come first -/
structure RepeatsOf (l r : List α) : Prop where
  later : r = (laterPlaces l).map Prod.fst
  count : ∀ x, r.count x = l.count x - 1
  values : ∀ x, x ∈ (firstPlaces l).map Prod.fst ↔ x ∈ l
  ordered : ((firstPlaces l).map Prod.fst).Pairwise fun x y => l.idxOf x < l.idxOf y
  none_iff : r = [] ↔ l.Nodup

theorem repeatsOf_repeats (l : List α) : RepeatsOf l (repeats l) where
  later := repeats_eq l
  count := count_repeats l
  values _ := mem_firstPlaces_fst
  ordered := pairwise_firstPlaces l
  none_iff := repeats_eq_nil_iff l

end

end TableChart
