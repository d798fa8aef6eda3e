import TableChart.CommandLine.Written
import TableChart.Proofs.CommandLine.Kept
import TableChart.Proofs.Decimal.Count
import TableChart.Proofs.Text.Run

/-!
# Written command lines are read back

Options have their values attached, so nothing is pending between them, and the order in which they
come shows in nothing: what has been given is a set of options.

* `Reading.step_writeSetting`   an option with its value puts the value into the draft;
* `Arguments.draft`             the draft that holds some of the options for some arguments;
* `Arguments.put_draft`         one more option for them;
* `Arguments.GivenBy`           options for some arguments in any order, without those that have their
                                default or with them;
* `Arguments.written_reads_back`   such options, `--` and the path are read to these arguments.
-/

namespace TableChart

/-! ## words -/

theorem Setting.ofLongName?_longName (s : Setting) : ofLongName? s.longName = some s := by
  cases s <;> decide

theorem Setting.longName_chars (s : Setting) : ∀ c ∈ s.longName.toList, c ≠ '=' := by
  cases s <;> simp [longName]

theorem Word.ofText_eq_ofLong {text : String} {cs : List Char} (h : text.toList = '-' :: '-' :: cs)
    (ne : cs ≠ []) : ofText text = ofLong cs := by
  obtain ⟨c, rest, rfl⟩ := List.exists_cons_of_ne_nil ne
  unfold ofText
  rw [h]
  rfl

/-- the name of an option holds no `=`, so the value begins behind the first one, whatever it is -/
theorem Word.ofText_writeSetting (s : Setting) (value : String) :
    ofText (writeSetting (s, value)) = long s.longName (some value) := by
  have text : (writeSetting (s, value)).toList
      = '-' :: '-' :: (s.longName.toList ++ '=' :: value.toList) := by simp [writeSetting]
  have name : ∀ c ∈ s.longName.toList, decide (c ≠ '=') := fun c hc =>
    decide_eq_true (s.longName_chars c hc)
  have stop : ∀ c ∈ ('=' :: value.toList).head?, ¬ decide (c ≠ '=') = true := by simp
  rw [ofText_eq_ofLong text (by simp), ofLong, Text.takeWhile_run name stop,
    Text.dropWhile_run name stop]
  simp

namespace Reading

theorem step_writeSetting {r : Reading} (options : r.divided = false) (settled : r.pending = none)
    (s : Setting) (value : String) :
    r.step (writeSetting (s, value))
      = (r.draft.put s value).map fun draft => { r with draft } := by
  have settle : r.settle = .ok r := by
    unfold Reading.settle
    rw [settled]
  unfold step
  rw [if_neg (by simp [options]), Word.ofText_writeSetting]
  dsimp only
  rw [long, Setting.ofLongName?_longName]
  dsimp only
  rw [option, settle]
  rfl

end Reading

/-! ## drafts -/

namespace Arguments

/-- what the options that are `given` have put into a draft for these arguments -/
def draft (a : Arguments) (given : List Setting) : Draft where
  filter := if .filter ∈ given then a.filter else none
  limit := if .limit ∈ given then some a.limit else none
  performanceCap := if .performanceCap ∈ given then some a.limits.warnAbove else none
  rowCap := if .rowCap ∈ given then some a.limits.cap else none
  x := if .xKey ∈ given then a.x else none
  y := if .yKey ∈ given then a.y else none

def count (n : Nat) : String := String.ofList (Nat.toDigits 10 n)

/-- the value that is written for an option -/
def value? (a : Arguments) : Setting → Option String
  | .filter => a.filter
  | .limit => count a.limit
  | .performanceCap => count a.limits.warnAbove
  | .rowCap => count a.limits.cap
  | .xKey => a.x
  | .yKey => a.y

variable {a : Arguments} {s : Setting} {text : String}

theorem mem_settings_iff : (s, text) ∈ a.settings ↔ a.value? s = some text := by
  cases s <;> simp [settings, value?, count, eq_comm]

theorem filterArgument_of_read {e : String} (h : ∃ c, Condition.read e = .ok c) :
    filterArgument e = .ok e := by
  obtain ⟨c, read⟩ := h
  unfold filterArgument
  rw [read]

theorem countArgument_count {n : Nat} (h : n < countBound) : countArgument (count n) = .ok n := by
  unfold countArgument
  rw [count, readCount_toDigits h]
  rfl

/-- one more option, that has not been given yet -/
theorem put_draft (h : a.Expressible) (hs : a.value? s = some text) {given : List Setting}
    (fresh : s ∉ given) : (a.draft given).put s text = .ok (a.draft (s :: given)) := by
  cases s with
  | filter =>
    have filter : a.filter = some text := hs
    have read := filterArgument_of_read (h.filter_accepted text filter)
    simp [Draft.put, draft, fresh, once, read, filter, Except.map]
  | limit =>
    obtain rfl := Option.some.inj hs
    simp [Draft.put, draft, fresh, once, countArgument_count h.limit_lt, Except.map]
  | performanceCap =>
    obtain rfl := Option.some.inj hs
    simp [Draft.put, draft, fresh, once, countArgument_count h.warnAbove_lt, Except.map]
  | rowCap =>
    obtain rfl := Option.some.inj hs
    simp [Draft.put, draft, fresh, once, countArgument_count h.cap_lt, Except.map]
  | xKey =>
    have x : a.x = some text := hs
    simp [Draft.put, draft, fresh, once, x, Except.map]
  | yKey =>
    have y : a.y = some text := hs
    simp [Draft.put, draft, fresh, once, y, Except.map]

/-- nothing but a default may be missing -/
theorem toArguments_draft {given : List Setting}
    (h : ∀ s, s ∉ given → a.value? s = ({ path := a.path } : Arguments).value? s) :
    ({ a.draft given with path := some a.path } : Draft).toArguments = .ok a := by
  have text {s : Setting} {value : Option String} (missing : s ∉ given → value = none) :
      (if s ∈ given then value else none) = value :=
    ite_eq_left_iff.mpr fun other => (missing other).symm
  have number {s : Setting} {n standard : Nat}
      (missing : s ∉ given → some (count n) = some (count standard)) :
      (if s ∈ given then some n else none).getD standard = n := by
    split
    · rfl
    · rename_i other
      exact (toDigits_inj (Option.some.inj (missing other))).symm
  have limits : (⟨(a.draft given).rowCap.getD 50000, (a.draft given).performanceCap.getD 10000⟩ :
      RowLimits) = a.limits := by
    rw [draft, number (h .rowCap), number (h .performanceCap)]
  have limit : (a.draft given).limit.getD 20 = a.limit := number (h .limit)
  have filter : (a.draft given).filter = a.filter := text (h .filter)
  have x : (a.draft given).x = a.x := text (h .xKey)
  have y : (a.draft given).y = a.y := text (h .yKey)
  show Except.ok (Arguments.mk a.path _ _ _ _ _) = _
  rw [limits, limit, filter, x, y]

/-! ## options in any order -/

/-- options for the arguments, each at most once; what is left out has its default -/
def GivenBy (a : Arguments) (given : List (Setting × String)) : Prop :=
  ∃ omitted : List (Setting × String), (given ++ omitted).Perm a.settings ∧
    ∀ p ∈ omitted, p ∈ ({ path := a.path } : Arguments).settings

theorem nodup_settings (a : Arguments) : (a.settings.map Prod.fst).Nodup := by
  unfold settings
  cases a.filter <;> cases a.x <;> cases a.y <;> simp

namespace GivenBy
variable {given : List (Setting × String)} (g : a.GivenBy given)
include g

theorem value? {p : Setting × String} (hp : p ∈ given) : a.value? p.1 = some p.2 := by
  obtain ⟨omitted, perm, -⟩ := g
  exact mem_settings_iff.mp (perm.subset (List.mem_append_left omitted hp))

theorem nodup : (given.map Prod.fst).Nodup := by
  obtain ⟨omitted, perm, -⟩ := g
  have all := ((perm.map Prod.fst).nodup_iff).mpr (nodup_settings a)
  rw [List.map_append, List.nodup_append] at all
  exact all.1

theorem default (missing : s ∉ given.map Prod.fst) :
    a.value? s = ({ path := a.path } : Arguments).value? s := by
  obtain ⟨omitted, perm, defaults⟩ := g
  cases value : a.value? s with
  | none =>
    cases s with
    | filter | xKey | yKey => rfl
    | limit | performanceCap | rowCap => cases value
  | some text =>
    have here := List.mem_append.mp (perm.mem_iff.mpr (mem_settings_iff.mpr value))
    have left := here.resolve_left fun here => missing (List.mem_map_of_mem here)
    exact (mem_settings_iff.mp (defaults _ left)).symm

end GivenBy

/-! ## whole command lines -/

theorem foldlM_writeSetting (h : a.Expressible) {given : List (Setting × String)}
    (values : ∀ p ∈ given, a.value? p.1 = some p.2) (nodup : (given.map Prod.fst).Nodup)
    {before : List Setting} (fresh : ∀ p ∈ given, p.1 ∉ before) :
    (given.map writeSetting).foldlM Reading.step { draft := a.draft before }
      = .ok { draft := a.draft ((given.map Prod.fst).reverse ++ before) } := by
  induction given generalizing before with
  | nil => rfl
  | cons p ps ih =>
    obtain ⟨value, values⟩ := List.forall_mem_cons.mp values
    obtain ⟨new, fresh⟩ := List.forall_mem_cons.mp fresh
    rw [List.map_cons, List.nodup_cons] at nodup
    have others : ∀ q ∈ ps, q.1 ∉ p.1 :: before := fun q hq mem =>
      (List.mem_cons.mp mem).elim (fun e => nodup.1 (e ▸ List.mem_map_of_mem hq)) (fresh q hq)
    have put : Reading.step { draft := a.draft before } (writeSetting p)
        = .ok { draft := a.draft (p.1 :: before) } := by
      rw [Reading.step_writeSetting rfl rfl, put_draft h value new]
      rfl
    rw [List.map_cons, List.foldlM_cons, put, List.map_cons, List.reverse_cons, List.append_assoc]
    exact ih values nodup.2 others

/-- behind `--` stands the path, whatever it looks like -/
theorem foldlM_divider {d : Draft} (noPath : d.path = none) (path : String) :
    ["--", path].foldlM Reading.step { draft := d }
      = .ok { draft := d, pending := some (.path path), divided := true } := by
  have divider : Reading.step { draft := d } "--" = .ok { draft := d, divided := true } := rfl
  have room : Reading.hasPath { draft := d, divided := true } = false := congrArg Option.isSome noPath
  have positional : Reading.step { draft := d, divided := true } path
      = .ok { draft := d, pending := some (.path path), divided := true } := by
    rw [Reading.step, if_pos rfl, Reading.positional, room]
    rfl
  rw [List.foldlM_cons]
  exact bind_eq_ok.mpr ⟨_, divider, bind_eq_ok.mpr ⟨_, positional, rfl⟩⟩

theorem settle_path (d : Draft) {path : String} (ne : path ≠ "") :
    Reading.settle { draft := d, pending := some (.path path), divided := true }
      = .ok { draft := { d with path := some path }, divided := true } := by
  have put : d.putPath path = .ok { d with path := some path } := if_neg ne
  exact map_eq_ok.mpr ⟨_, put, rfl⟩

theorem read_writeWords (h : a.Expressible) {given : List (Setting × String)} (g : a.GivenBy given) :
    read (writeWords given a.path) = .ok a := by
  have options : (given.map writeSetting).foldlM Reading.step {}
      = .ok { draft := a.draft ((given.map Prod.fst).reverse ++ []) } :=
    foldlM_writeSetting h (fun _ => g.value?) g.nodup fun _ _ => List.not_mem_nil
  have words : (writeWords given a.path).foldlM Reading.step {} = .ok
      { draft := a.draft ((given.map Prod.fst).reverse ++ []), pending := some (.path a.path),
        divided := true } := by
    rw [writeWords, List.foldlM_append]
    exact bind_eq_ok.mpr ⟨_, options, foldlM_divider rfl a.path⟩
  refine bind_eq_ok.mpr ⟨_, words, bind_eq_ok.mpr ⟨_, settle_path _ h.path_ne, ?_⟩⟩
  refine toArguments_draft fun s missing => g.default fun here => missing ?_
  rwa [List.append_nil, List.mem_reverse]

/-- **A written command line is read back.**  Options with their values attached, in any order and with
or without those that have their default, then `--` and the path, are read to the arguments they were
written for.  These may be any whose path is not empty, whose filter can be read and whose counts are
below the bound, and no command line is read to other arguments. -/
theorem written_reads_back :
    (∀ a : Arguments, a.Expressible → ∀ given, a.GivenBy given →
      read (writeWords given a.path) = .ok a) ∧
    ∀ words a, read words = .ok a → a.Expressible :=
  ⟨fun _ h _ g => read_writeWords h g, fun _ _ => expressible⟩

def dashedArguments : Arguments where
  path := "--x.csv"
  filter := some "note == --y=1"
  limits := ⟨18446744073709551615, 10000⟩
  x := some ""
  y := some "-l = 5"

/-- values with dashes, blanks and equals signs, an empty one, and two defaults that are left out -/
theorem written_reads_back_dashed :
    let given := [(Setting.yKey, "-l = 5"), (.rowCap, "18446744073709551615"),
      (.filter, "note == --y=1"), (.xKey, "")]
    dashedArguments.Expressible ∧ dashedArguments.GivenBy given ∧
      writeWords given dashedArguments.path
        = ["--y-key=-l = 5", "--row-cap=18446744073709551615", "--filter=note == --y=1", "--x-key=",
          "--", "--x.csv"] ∧
      read (writeWords given dashedArguments.path) = .ok dashedArguments := by
  intro given
  have expressible : dashedArguments.Expressible :=
    { path_ne := by decide
      filter_accepted := by
        rintro _ ⟨⟩
        exact ⟨_, rfl⟩
      limit_lt := by decide
      warnAbove_lt := by decide
      cap_lt := by decide }
  have givenBy : dashedArguments.GivenBy given :=
    ⟨[(.limit, "20"), (.performanceCap, "10000")], by decide, by decide⟩
  exact ⟨expressible, givenBy, by decide, written_reads_back.1 _ expressible given givenBy⟩

end Arguments

end TableChart
