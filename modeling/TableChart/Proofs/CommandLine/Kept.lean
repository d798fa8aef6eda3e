import TableChart.CommandLine.Reading
import TableChart.Proofs.Decimal.Count

/-!
# What reading keeps

The words of a command line are read one by one, and a word may settle the argument before it.

* `Draft.Kept P`            `P` holds at the start and is kept by an option with its value and by a
                            path;
* `Draft.Kept.step`         then every word keeps it;
* `Draft.Kept.read`         and a command line is read to a draft that has it;
* `Arguments.Expressible`       arguments with a path, a filter that can be read, and counts below the
                                bound of counts;
* `Arguments.expressible`       nothing else is read from a command line.
-/

namespace TableChart

/-! ## results -/

section
variable {ε ε' α β : Type} {x : Except ε α} {b : β}

theorem map_eq_ok {f : α → β} : x.map f = .ok b ↔ ∃ a, x = .ok a ∧ f a = b := by
  cases x <;> simp [Except.map]

theorem bind_eq_ok {f : α → Except ε β} : x >>= f = .ok b ↔ ∃ a, x = .ok a ∧ f a = .ok b := by
  cases x <;> simp [bind, Except.bind]

theorem mapError_eq_ok {f : ε → ε'} {a : α} : x.mapError f = .ok a ↔ x = .ok a := by
  cases x with
  | error e => exact ⟨nofun, nofun⟩
  | ok b => exact ⟨fun h => Except.ok.inj h ▸ rfl, fun h => Except.ok.inj h ▸ rfl⟩

end

/-! ## drafts -/

structure Draft.Kept (P : Draft → Prop) : Prop where
  start : P {}
  put : ∀ {d setting text d'}, P d → d.put setting text = .ok d' → P d'
  putPath : ∀ {d text d'}, P d → d.putPath text = .ok d' → P d'

namespace Draft.Kept
variable {P : Draft → Prop} (k : Kept P) {r t : Reading} (hr : P r.draft)
include k hr

theorem settle (h : r.settle = .ok t) : P t.draft := by
  unfold Reading.settle at h
  split at h
  · cases h
    exact hr
  · cases h
  · obtain ⟨d, hd, rfl⟩ := map_eq_ok.mp h
    exact k.put hr hd
  · obtain ⟨d, hd, rfl⟩ := map_eq_ok.mp h
    exact k.putPath hr hd

/-- the new pending argument is no part of the draft yet -/
theorem settle_pending {pending : Option Pending}
    (h : r.settle.map (fun s => { s with pending }) = .ok t) : P t.draft := by
  obtain ⟨s, hs, rfl⟩ := map_eq_ok.mp h
  have kept : P s.draft := k.settle hr hs
  exact kept

theorem positional {text : String} (h : r.positional text = .ok t) : P t.draft := by
  unfold Reading.positional at h
  split at h
  · cases h
  · exact k.settle_pending hr h

theorem option {setting : Setting} {value : Option String} (h : r.option setting value = .ok t) :
    P t.draft := by
  cases value with
  | none => exact k.settle_pending hr h
  | some value =>
    obtain ⟨s, hs, h⟩ := bind_eq_ok.mp h
    obtain ⟨d, hd, h⟩ := bind_eq_ok.mp h
    cases h
    exact k.put (k.settle hr hs) hd

omit k hr in
theorem request_ne_ok (wanted : UsageFault) : r.request wanted ≠ .ok t := by
  intro h
  obtain ⟨_, _, h⟩ := bind_eq_ok.mp h
  cases h

theorem long {name : String} {value : Option String} (h : r.long name value = .ok t) :
    P t.draft := by
  unfold Reading.long at h
  split at h
  · exact k.option hr h
  · split at h
    · cases h
    · exact absurd h (request_ne_ok _)
  · cases h

theorem short {letter : Char} {rest : List Char} (h : r.short letter rest = .ok t) :
    P t.draft := by
  unfold Reading.short at h
  split at h
  · exact k.option hr h
  · exact absurd h (request_ne_ok _)
  · cases h

theorem plain {text : String} (h : r.plain text = .ok t) : P t.draft := by
  unfold Reading.plain at h
  split at h
  · cases h
    exact hr
  · exact k.positional hr h

theorem step {text : String} (h : r.step text = .ok t) : P t.draft := by
  unfold Reading.step at h
  split at h
  · exact k.positional hr h
  · split at h
    · cases h
      exact hr
    · exact k.long hr h
    · exact k.short hr h
    · exact k.plain hr h

theorem steps {words : List String} (h : words.foldlM Reading.step r = .ok t) : P t.draft := by
  induction words generalizing r with
  | nil =>
    cases h
    exact hr
  | cons w ws ih =>
    rw [List.foldlM_cons] at h
    obtain ⟨s, hs, h⟩ := bind_eq_ok.mp h
    exact ih (k.step hr hs) h

omit hr in
theorem read {words : List String} {a : Arguments} (h : Arguments.read words = .ok a) :
    ∃ d, P d ∧ d.toArguments = .ok a := by
  obtain ⟨r, hr, h⟩ := bind_eq_ok.mp h
  obtain ⟨s, hs, h⟩ := bind_eq_ok.mp h
  exact ⟨s.draft, k.settle (k.steps k.start hr) hs, h⟩

end Draft.Kept

/-! ## arguments -/

def FilterAccepted (filter : Option String) : Prop :=
  ∀ e, filter = some e → ∃ c, Condition.read e = .ok c

/-- arguments that a command line can ask for -/
structure Arguments.Expressible (a : Arguments) : Prop where
  path_ne : a.path ≠ ""
  filter_accepted : FilterAccepted a.filter
  limit_lt : a.limit < countBound
  warnAbove_lt : a.limits.warnAbove < countBound
  cap_lt : a.limits.cap < countBound

/-- the same about what has been given so far -/
structure Draft.Expressible (d : Draft) : Prop where
  path_ne : ∀ path, d.path = some path → path ≠ ""
  filter_accepted : FilterAccepted d.filter
  limit_lt : ∀ n, d.limit = some n → n < countBound
  warnAbove_lt : ∀ n, d.performanceCap = some n → n < countBound
  cap_lt : ∀ n, d.rowCap = some n → n < countBound

theorem once_eq_ok {α : Type} {given value' : Option α} {value : Except UsageFault α} :
    once given value = .ok value' ↔ given = none ∧ ∃ v, value = .ok v ∧ some v = value' := by
  unfold once
  cases given with
  | none => exact (map_eq_ok (f := some)).trans (by simp)
  | some v => exact ⟨nofun, fun h => absurd h.1 nofun⟩

theorem filterArgument_eq_ok {text : String} {filter : Option String} {given : Option String}
    (h : once given (filterArgument text) = .ok filter) : FilterAccepted filter := by
  obtain ⟨-, e, read, rfl⟩ := once_eq_ok.mp h
  rintro _ ⟨⟩
  unfold filterArgument at read
  cases hc : Condition.read text with
  | ok c =>
    rw [hc] at read
    cases read
    exact ⟨c, hc⟩
  | error f =>
    rw [hc] at read
    cases read

theorem countArgument_eq_ok {text : String} {count given : Option Nat}
    (h : once given (countArgument text) = .ok count) : ∀ n, count = some n → n < countBound := by
  obtain ⟨-, m, read, rfl⟩ := once_eq_ok.mp h
  rintro n ⟨⟩
  exact readCount_lt (mapError_eq_ok.mp read)

theorem kept_expressible : Draft.Kept Draft.Expressible where
  start := ⟨nofun, nofun, nofun, nofun, nofun⟩
  put := by
    intro d setting text d' hd h
    cases setting with
    | filter =>
      obtain ⟨v, hv, rfl⟩ := map_eq_ok.mp h
      exact { hd with filter_accepted := filterArgument_eq_ok hv }
    | limit =>
      obtain ⟨v, hv, rfl⟩ := map_eq_ok.mp h
      exact { hd with limit_lt := countArgument_eq_ok hv }
    | performanceCap =>
      obtain ⟨v, hv, rfl⟩ := map_eq_ok.mp h
      exact { hd with warnAbove_lt := countArgument_eq_ok hv }
    | rowCap =>
      obtain ⟨v, hv, rfl⟩ := map_eq_ok.mp h
      exact { hd with cap_lt := countArgument_eq_ok hv }
    | xKey | yKey =>
      obtain ⟨v, -, rfl⟩ := map_eq_ok.mp h
      exact { hd with }
  putPath := by
    intro d text d' hd h
    unfold Draft.putPath at h
    split at h
    · cases h
    · rename_i ne
      cases h
      exact { hd with path_ne := fun _ e => Option.some.inj e ▸ ne }

theorem Arguments.expressible {words : List String} {a : Arguments}
    (h : Arguments.read words = .ok a) : a.Expressible := by
  obtain ⟨d, hd, read⟩ := kept_expressible.read h
  have below {count : Option Nat} {standard : Nat} (known : ∀ n, count = some n → n < countBound)
      (small : standard < countBound) : count.getD standard < countBound := by
    cases count with
    | none => exact small
    | some n => exact known n rfl
  unfold Draft.toArguments at read
  split at read
  · cases read
  · rename_i path given
    cases read
    exact
      { path_ne := hd.path_ne path given
        filter_accepted := hd.filter_accepted
        limit_lt := below hd.limit_lt (show 20 < countBound by decide)
        warnAbove_lt := below hd.warnAbove_lt (show 10000 < countBound by decide)
        cap_lt := below hd.cap_lt (show 50000 < countBound by decide) }

theorem Arguments.filter_accepted {words : List String} {a : Arguments}
    (h : Arguments.read words = .ok a) : FilterAccepted a.filter := (expressible h).filter_accepted

end TableChart
