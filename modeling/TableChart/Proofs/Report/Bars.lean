import TableChart.Proofs.Session.Points
import TableChart.Report.Bars

/-!
# What a bar chart shows

Title and bars are labels, padded to one width, before a separator.  The width is that of the
longest label that is shown, so no label is cut off or moves the separator.

* `SetApart`             a label, blanks up to a width, the separator and a text;
* `IsBar`                the line that stands for a record;
* `moreLines`            the count of the records that are not shown;
* `barLines_of_plots`    a title, bars for the first records, and the count of the others;
* `Legible`              no title or label is too wide to be set apart;
* `chartLines?_eq`       which is what a chart needs to be drawn.
-/

namespace TableChart

/-! ## lines -/

def SetApart (width : Nat) (label text line : String) : Prop :=
  ∃ blanks, label.length + blanks = width ∧
    line = label ++ String.ofList (List.replicate blanks ' ') ++ " | " ++ text

def IsBar (x y : String) (width : Nat) (r : Record) (line : String) : Prop :=
  ∃ p marks, Plots x y r p ∧
    SetApart width p.label
      (String.ofList (List.replicate marks '#') ++ " " ++ String.ofList p.value.plain) line

def moreLines (limit count : Nat) : List String :=
  if limit < count then ["... " ++ countText (count - limit) ++ " more"] else []

theorem setApart_padded {width : Nat} {label : String} (h : label.length ≤ width) (text : String) :
    SetApart width label text (padded width label ++ " | " ++ text) :=
  ⟨width - label.length, Nat.add_sub_cancel' h, rfl⟩

theorem setApart_barLine {width : Nat} {p : Point} (fits : p.label.length ≤ width) (largest : Nat) :
    SetApart width p.label
      (String.ofList (List.replicate (barLength p.value.rank largest) '#') ++ " "
        ++ String.ofList p.value.plain) (barLine width largest p) := by
  have apart := setApart_padded fits
    (String.ofList (List.replicate (barLength p.value.rank largest) '#') ++ " "
      ++ String.ofList p.value.plain)
  unfold barLine
  simpa only [String.append_assoc] using apart

theorem isBar_barLine {x y : String} {width : Nat} {r : Record} {p : Point} (h : Plots x y r p)
    (fits : p.label.length ≤ width) (largest : Nat) :
    IsBar x y width r (barLine width largest p) :=
  ⟨p, barLength p.value.rank largest, h, setApart_barLine fits largest⟩

/-! ## widths -/

theorem le_foldl_max (l : List Nat) (m : Nat) :
    m ≤ l.foldl max m ∧ ∀ n ∈ l, n ≤ l.foldl max m := by
  induction l generalizing m with
  | nil => exact ⟨Nat.le_refl m, nofun⟩
  | cons a l ih =>
    obtain ⟨start, rest⟩ := ih (max m a)
    refine ⟨Nat.le_trans (Nat.le_max_left m a) start, fun n hn => ?_⟩
    rcases List.mem_cons.mp hn with rfl | hl
    · exact Nat.le_trans (Nat.le_max_right m n) start
    · exact rest n hl

theorem foldl_max_le {l : List Nat} {m k : Nat} (start : m ≤ k) (rest : ∀ n ∈ l, n ≤ k) :
    l.foldl max m ≤ k := by
  induction l generalizing m with
  | nil => exact start
  | cons a l ih =>
    have first := rest a List.mem_cons_self
    exact ih (Nat.max_le.mpr ⟨start, first⟩) fun n hn => rest n (List.mem_cons_of_mem a hn)

theorem length_le_labelWidth (title : String) (points : List Point) :
    title.length ≤ labelWidth title points ∧
      ∀ p ∈ points, p.label.length ≤ labelWidth title points := by
  obtain ⟨first, others⟩ := le_foldl_max (points.map (·.label.length)) title.length
  exact ⟨first, fun p hp => others _ (List.mem_map_of_mem hp)⟩

/-- the width is the least one that suffices -/
theorem labelWidth_le_iff {title : String} {points : List Point} {bound : Nat} :
    labelWidth title points ≤ bound ↔
      title.length ≤ bound ∧ ∀ p ∈ points, p.label.length ≤ bound := by
  constructor
  · intro h
    obtain ⟨first, others⟩ := length_le_labelWidth title points
    exact ⟨Nat.le_trans first h, fun p hp => Nat.le_trans (others p hp) h⟩
  · rintro ⟨first, others⟩
    exact foldl_max_le first (List.forall_mem_map.mpr others)

/-! ## charts -/

theorem forall₂_isBar {x y : String} {width : Nat} {records : List Record} {points : List Point}
    (h : List.Forall₂ (Plots x y) records points)
    (fits : ∀ p ∈ points, p.label.length ≤ width) (largest : Nat) :
    List.Forall₂ (IsBar x y width) records (points.map (barLine width largest)) := by
  induction h with
  | nil => exact .nil
  | cons plots _ ih =>
    refine .cons (isBar_barLine plots (fits _ List.mem_cons_self) largest) (ih fun p hp => ?_)
    exact fits p (List.mem_cons_of_mem _ hp)

theorem moreLines_eq (points : List Point) (limit : Nat) :
    (if (points.take limit).length < points.length then
        ["... " ++ countText (points.length - (points.take limit).length) ++ " more"] else [])
      = moreLines limit points.length := by
  unfold moreLines
  rw [List.length_take]
  by_cases more : limit < points.length
  · rw [Nat.min_eq_left (Nat.le_of_lt more)]
  · rw [Nat.min_eq_right (Nat.not_lt.mp more), if_neg (Nat.lt_irrefl _), if_neg more]

theorem barLines_eq (x y : String) (points : List Point) (limit : Nat) :
    barLines x y points limit =
      (padded (labelWidth x (points.take limit)) x ++ " | " ++ y)
        :: (points.take limit).map
            (barLine (labelWidth x (points.take limit)) (largestRank (points.take limit)))
        ++ moreLines limit points.length := by
  rw [← moreLines_eq]
  rfl

/-- the first records are shown, each by its bar, and the others are counted -/
theorem barLines_of_plots {x y : String} {records : List Record} {points : List Point}
    (h : List.Forall₂ (Plots x y) records points) (limit : Nat) :
    ∃ width title bars, barLines x y points limit
        = title :: bars ++ moreLines limit records.length ∧
      SetApart width x y title ∧ bars.length = min limit records.length ∧
      List.Forall₂ (IsBar x y width) (records.take limit) bars := by
  have same : records.length = points.length := h.length_eq
  obtain ⟨first, others⟩ := length_le_labelWidth x (points.take limit)
  refine ⟨labelWidth x (points.take limit), _, _, ?_, setApart_padded first y, ?_,
    forall₂_isBar (List.forall₂_take limit h) others (largestRank (points.take limit))⟩
  · rw [same, barLines_eq]
  · rw [List.length_map, List.length_take, same]

/-! ### charts that can be drawn -/

/-- the records that are shown under `x` have labels that can be set apart, and so has the title -/
def Legible (x : String) (shown : List Record) : Prop :=
  x.length ≤ widthBound ∧ ∀ r ∈ shown, (r.label x).length ≤ widthBound

instance (x : String) (shown : List Record) : Decidable (Legible x shown) :=
  inferInstanceAs (Decidable (_ ∧ _))

theorem Plots.label_eq {x y : String} {r : Record} {p : Point} (h : Plots x y r p) :
    p.label = r.label x := by
  by_cases lacks : r.Lacks x
  · exact (h.label_of_lacks lacks).trans (if_pos (Record.lacks_iff.mp lacks)).symm
  · have present : r.cellOrEmpty x ≠ "" := mt Record.lacks_iff.mpr lacks
    obtain ⟨cell, hc⟩ := Option.ne_none_iff_exists'.mp fun absent => lacks (.inl absent)
    have same : r.cellOrEmpty x = cell := Record.cellOrEmpty_of_cell? hc
    calc p.label = cell := h.label_of_cell cell hc (same ▸ present)
      _ = r.cellOrEmpty x := same.symm
      _ = r.label x := (if_neg present).symm

theorem labels_eq {x y : String} {records : List Record} {points : List Point}
    (h : List.Forall₂ (Plots x y) records points) :
    points.map (·.label) = records.map (·.label x) := by
  induction h with
  | nil => rfl
  | cons plots _ ih => rw [List.map_cons, List.map_cons, plots.label_eq, ih]

theorem chartLines?_eq {x y : String} {records : List Record} {points : List Point}
    (h : List.Forall₂ (Plots x y) records points) (limit : Nat) :
    chartLines? x y points limit =
      if Legible x (records.take limit) then some (barLines x y points limit) else none := by
  have labels := labels_eq (List.forall₂_take limit h)
  have fits : labelWidth x (points.take limit) ≤ widthBound ↔ Legible x (records.take limit) := by
    have shown : (∀ p ∈ points.take limit, p.label.length ≤ widthBound) ↔
        ∀ s ∈ (points.take limit).map (·.label), s.length ≤ widthBound := by
      rw [List.forall_mem_map]
    rw [labelWidth_le_iff, shown, labels, List.forall_mem_map, Legible]
  exact if_congr fits rfl rfl

end TableChart
