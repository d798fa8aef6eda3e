import TableChart.Proofs.Csv.RoundTrip
import TableChart.Proofs.Report.Bars
import TableChart.Proofs.Report.Stages
import TableChart.Report.Outcome

/-!
# When a run ends with a chart

A report can be stopped at any stage, before and after the axes are overridden, yet one condition on
the file and the chosen axes says whether it is; the filter, the limit and the cells do not matter.
They do matter to the drawing: a title or a label that is shown may be too wide for it, and then the
run ends in the middle, with neither a chart nor a message.

* `Report.Chartable`                the condition;
* `Report.Chartable.ending_eq`      under it the widths decide how a report ends;
* `Outcome.status_decided`          both together decide about a run;
* `Outcome.wide_title_breaks_off`   a file that meets the condition and has no chart.
-/

namespace TableChart

namespace Report

/-- the bytes are a dataset, and the axes chosen for it select two of its columns -/
structure Chartable (a : Arguments) (bytes : List UInt8) (d : Dataset) (x y : String) : Prop where
  loads : Dataset.ofFile (nameOf a.path) bytes a.limits = .ok d
  selects : (a.chosenAxes d.table.numericColumns).Selects d.table.numericColumns x y

section
variable {a : Arguments} (accepted : FilterAccepted a.filter)
include accepted

namespace Chartable
variable {bytes : List UInt8} {d : Dataset} {x y : String} {filtered : List Record}
  (h : Chartable a bytes d x y) (hf : Filtered d.table.records a.filter filtered)
include h hf

omit accepted in
theorem plots : List.Forall₂ (Plots x y) filtered (Series.ofRecords filtered x y).points :=
  (Series.ofRecords_plots d.table.records hf.mem (Table.isNumericColumn_of_mem h.selects.x_numeric)
    (Table.isNumericColumn_of_mem h.selects.y_numeric)).1

theorem ofFile_eq :
    ofFile a (.ok bytes)
      = drawn (warningLines (loaded a bytes)
          ++ summaryLines d.table filtered (Series.ofRecords filtered x y))
        (if Legible x (filtered.take a.limit) then
          some (barLines x y (Series.ofRecords filtered x y).points a.limit) else none) := by
  rw [ofFile_of_selects h.loads accepted h.selects hf, chartLines?_eq (h.plots hf)]

theorem ending_eq :
    (ofFile a (.ok bytes)).ending
      = if Legible x (filtered.take a.limit) then .charted else .broken := by
  rw [h.ofFile_eq accepted hf]
  split <;> rfl

theorem outputs_eq (legible : Legible x (filtered.take a.limit)) :
    outputs (ofFile a (.ok bytes)).lines = columnLines d.table ++
      [rowsSummary filtered.length d.table.records.length, ""] ++
        barLines x y (Series.ofRecords filtered x y).points a.limit := by
  have summary := outputs_summaryLines d.table filtered (Series.ofRecords filtered x y)
  rw [← (h.plots hf).length_eq] at summary
  rw [h.ofFile_eq accepted hf, if_pos legible, lines_drawn_some, outputs_append, outputs_append,
    outputs_warningLines, summary, outputs_map_out]
  rfl

theorem brokenOff (wide : ¬ Legible x (filtered.take a.limit)) :
    BrokenOff d.table filtered (ofFile a (.ok bytes)).lines := by
  rw [h.ofFile_eq accepted hf, if_neg wide]
  exact brokenOff_drawn (loaded a bytes) d.table (h.plots hf).length_eq

end Chartable

variable {content : Except Fault (List UInt8)}

theorem stops_of_not_chartable (h : ∀ bytes d x y, content = .ok bytes → ¬ Chartable a bytes d x y) :
    Stops (ofFile a content) := by
  cases content with
  | error f => exact stops_unreadable a f
  | ok bytes =>
    cases hd : Dataset.ofFile (nameOf a.path) bytes a.limits with
    | error f => exact stops_of_load_error hd
    | ok d =>
      apply stops_of_not_selects hd accepted
      intro x y sel
      exact h bytes d x y rfl ⟨hd, sel⟩

end

end Report

namespace Outcome
open Report (Chartable)

/-! ## runs -/

variable {words : List String} {a : Arguments}

theorem run_eq (h : Arguments.read words = .ok a) (disk : Disk) :
    run disk words
      = ofReport (Report.ofFile a ((disk.read a.path).mapError ReadFault.toFault)) := by
  unfold run
  rw [h]

theorem run_of_content (h : Arguments.read words = .ok a) {disk : Disk} {bytes : List UInt8}
    (content : disk.read a.path = .ok bytes) :
    run disk words = ofReport (Report.ofFile a (.ok bytes)) := by
  rw [run_eq h, content]
  rfl

theorem lines_ofReport (r : Report) : (ofReport r).lines = r.lines := rfl

theorem status_ofReport (r : Report) : (ofReport r).status = r.ending.status := rfl

section
variable (h : Arguments.read words = .ok a) (disk : Disk)
include h

theorem status_run_of_chartable {bytes : List UInt8} {d : Dataset} {x y : String}
    {filtered : List Record} (content : disk.read a.path = .ok bytes)
    (chartable : Chartable a bytes d x y) (hf : Filtered d.table.records a.filter filtered) :
    (run disk words).status = if Legible x (filtered.take a.limit) then 0 else 101 := by
  rw [run_of_content h content, status_ofReport,
    chartable.ending_eq (Arguments.filter_accepted h) hf]
  split <;> rfl

theorem brokenOff_run {bytes : List UInt8} {d : Dataset} {x y : String} {filtered : List Record}
    (content : disk.read a.path = .ok bytes) (chartable : Chartable a bytes d x y)
    (hf : Filtered d.table.records a.filter filtered) (wide : ¬ Legible x (filtered.take a.limit)) :
    BrokenOff d.table filtered (run disk words).lines := by
  rw [run_of_content h content, lines_ofReport]
  exact chartable.brokenOff (Arguments.filter_accepted h) hf wide

theorem run_of_not_chartable
    (refused : ∀ bytes d x y, disk.read a.path = .ok bytes → ¬ Chartable a bytes d x y) :
    (run disk words).status = 1 ∧ Unfinished (run disk words).lines := by
  have stops : Report.Stops (Report.ofFile a ((disk.read a.path).mapError ReadFault.toFault)) :=
    Report.stops_of_not_chartable (Arguments.filter_accepted h) fun bytes d x y hb =>
      refused bytes d x y (mapError_eq_ok.mp hb)
  rw [run_eq h]
  exact ⟨congrArg Ending.status stops.ending_eq, stops.unfinished⟩

/-- if a chart can be made, there are records for it, since the filter is accepted -/
theorem exists_filtered_or_not_chartable :
    (∃ bytes d x y filtered, disk.read a.path = .ok bytes ∧ Chartable a bytes d x y ∧
      Filtered d.table.records a.filter filtered) ∨
    ∀ bytes d x y, disk.read a.path = .ok bytes → ¬ Chartable a bytes d x y := by
  by_cases made : ∃ bytes d x y, disk.read a.path = .ok bytes ∧ Chartable a bytes d x y
  · obtain ⟨bytes, d, x, y, content, chartable⟩ := made
    obtain ⟨filtered, -, hf⟩ :=
      selectRecords_of_filterAccepted (Arguments.filter_accepted h) d.table.records
    exact .inl ⟨bytes, d, x, y, filtered, content, chartable, hf⟩
  · exact .inr fun bytes d x y content chartable => made ⟨bytes, d, x, y, content, chartable⟩

theorem status_run_eq_zero_iff :
    (run disk words).status = 0 ↔ ∃ bytes d x y filtered, disk.read a.path = .ok bytes ∧
      Chartable a bytes d x y ∧ Filtered d.table.records a.filter filtered ∧
      Legible x (filtered.take a.limit) := by
  constructor
  · intro zero
    rcases exists_filtered_or_not_chartable h disk with
      ⟨bytes, d, x, y, filtered, content, chartable, hf⟩ | refused
    · refine ⟨bytes, d, x, y, filtered, content, chartable, hf, ?_⟩
      by_contra wide
      have status := status_run_of_chartable h disk content chartable hf
      rw [if_neg wide, zero] at status
      cases status
    · cases zero.symm.trans (run_of_not_chartable h disk refused).1
  · rintro ⟨bytes, d, x, y, filtered, content, chartable, hf, legible⟩
    exact (status_run_of_chartable h disk content chartable hf).trans (if_pos legible)

theorem status_run_eq_one_iff :
    (run disk words).status = 1 ↔
      ∀ bytes d x y, disk.read a.path = .ok bytes → ¬ Chartable a bytes d x y := by
  refine ⟨fun one => ?_, fun refused => (run_of_not_chartable h disk refused).1⟩
  rcases exists_filtered_or_not_chartable h disk with
    ⟨bytes, d, x, y, filtered, content, chartable, hf⟩ | refused
  · have status := status_run_of_chartable h disk content chartable hf
    rw [one] at status
    split at status <;> cases status
  · exact refused

end

def twoColumnsDisk : Disk where
  entries := [(["a.csv"], .file (utf8 "a,b\n1,3\n"))]
  workplace := []

theorem numericColumns_twoColumns : twoColumns.table.numericColumns = ["a", "b"] := by
  rw [Table.numericColumns_eq]
  decide +kernel

theorem isPlain_of_letters {title : String} (letters : ∀ c ∈ title.toList, c = 'a') :
    IsPlain title := by
  intro c hc
  rw [letters c hc]
  decide

/-- two columns and one record -/
def titledFile (title : String) (letters : ∀ c ∈ title.toList, c = 'a') : WrittenFile where
  mark := false
  header :=
    { fields := [(.bare, title), (.bare, "b")]
      breaks := [0x0A]
      fields_ne := nofun
      not_blank := nofun
      bare_plain := by
        have plain : IsPlain "b" := by decide
        simp [isPlain_of_letters letters, plain] }
  data := [{ fields := [(.bare, "1"), (.bare, "2")], breaks := [0x0A] }]
  lines_end := by simp
  no_mark := by
    rintro - s rest h
    obtain ⟨e, -⟩ := List.cons.inj h
    obtain rfl : title = s := congrArg Prod.snd e
    intro mark
    exact absurd (letters _ (List.mem_of_head? mark)) (by decide)

def titledTable (title : String) : Table :=
  ⟨[title, "b"], [⟨[(title, "1"), ("b", "2")]⟩]⟩

def titledDisk (title : String) : Disk where
  entries := [(["d.csv"], .file (utf8 (title ++ ",b\n1,2\n")))]
  workplace := []

section
variable {title : String}

theorem bytes_titledFile (letters : ∀ c ∈ title.toList, c = 'a') :
    (titledFile title letters).bytes = utf8 (title ++ ",b\n1,2\n") := by
  have parts : utf8 (title ++ ",b\n1,2\n") = utf8 title ++ utf8 ",b\n1,2\n" := by
    unfold utf8
    rw [String.toList_append, List.flatMap_append]
  rw [parts]
  show [] ++ (((utf8 title ++ commaByte :: utf8 "b") ++ [0x0A])
    ++ (((utf8 "1" ++ commaByte :: utf8 "2") ++ [0x0A]) ++ [])) = _
  rw [List.nil_append, List.append_assoc, List.append_assoc]
  rfl

theorem ofFile_titled (letters : ∀ c ∈ title.toList, c = 'a') :
    ∃ d, Dataset.ofFile "d.csv" (utf8 (title ++ ",b\n1,2\n")) {} = .ok d ∧
      d.table = titledTable title := by
  have rows := (titledFile title letters).csvCells?_bytes
  rw [bytes_titledFile] at rows
  obtain ⟨d, loads, table⟩ : ∃ d, Dataset.ofRows {} [[title, "b"], ["1", "2"]] = .ok d ∧
      d.table = Table.ofRows [title, "b"] [["1", "2"]] := Dataset.ofRows_of_le (by decide) _
  exact ⟨d, Dataset.ofFile_eq_ok_iff.mpr ⟨rfl, _, rows, loads⟩, table⟩

theorem numericColumns_titled (other : title ≠ "b") :
    (titledTable title).numericColumns = [title, "b"] := by
  have numbers : isNumber "1" ∧ isNumber "2" := by decide +kernel
  rw [Table.numericColumns_eq]
  simp [titledTable, isNumericColumn, Record.cellOrEmpty, Record.cell?, lastValue?, other.symm,
    numbers]

/-- the title alone is too wide, so the record and the limit do not matter -/
theorem breaks_off_of_wide (letters : ∀ c ∈ title.toList, c = 'a')
    (wide : widthBound < title.length) :
    (∃ d, Chartable { path := "d.csv" } (utf8 (title ++ ",b\n1,2\n")) d title "b") ∧
      (run (titledDisk title) ["d.csv"]).status = 101 := by
  have other : title ≠ "b" := by
    rintro rfl
    exact absurd wide (by decide)
  obtain ⟨d, loads, table⟩ := ofFile_titled letters
  have numeric : d.table.numericColumns = [title, "b"] := by
    rw [table, numericColumns_titled other]
  have chartable : Chartable { path := "d.csv" } (utf8 (title ++ ",b\n1,2\n")) d title "b" := by
    refine ⟨loads, ?_⟩
    rw [numeric]
    exact ⟨rfl, other, List.mem_cons_self, List.mem_cons_of_mem _ List.mem_cons_self⟩
  have read : (titledDisk title).read "d.csv" = .ok (utf8 (title ++ ",b\n1,2\n")) := rfl
  have words : Arguments.read ["d.csv"] = .ok { path := "d.csv" } := rfl
  refine ⟨⟨d, chartable⟩, ?_⟩
  rw [status_run_of_chartable words (titledDisk title) read chartable .all]
  exact if_neg fun legible => Nat.not_lt.mpr legible.1 wide

end

end Outcome

end TableChart
