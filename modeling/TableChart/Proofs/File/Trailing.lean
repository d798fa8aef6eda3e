import TableChart.Proofs.Csv.Decoded
import TableChart.Proofs.File.Suffix
import TableChart.Proofs.Table.Loaded
import TableChart.Proofs.Text.Run

/-!
# Names with something behind `.csv`

A name that does not end in `.csv` is looked at once more, as a path.  Slashes at the end of a path, and
points between them, do not count, so its last component may end in `.csv` after all.

* `Trail`                   slashes, each with a point behind it or without;
* `LastComponent`           the last component of a path, with a trail behind it;
* `extension?_eq_some_iff`  the extension is what follows the last point of that component, unless the
                            point opens it;
* `TrailsCsv`               names of such paths;
* `FileKind.ofName_eq_csv_iff`   they are those of tables too;
* `Dataset.table_names`          what becomes of files with these names, and with others.
-/

namespace TableChart

/-! ## components -/

def Trail (trail : List Char) : Prop :=
  ∃ pieces : List (List Char), trail = pieces.flatten ∧ ∀ p ∈ pieces, p = ['/'] ∨ p = ['/', '.']

theorem trail_nil : Trail [] := ⟨[], rfl, List.forall_mem_nil _⟩

theorem trail_cons {piece trail : List Char} (h : piece = [] ∨ piece = ['.']) (t : Trail trail) :
    Trail ('/' :: piece ++ trail) := by
  obtain ⟨pieces, rfl, all⟩ := t
  refine ⟨('/' :: piece) :: pieces, rfl, List.forall_mem_cons.mpr ⟨?_, all⟩⟩
  exact h.imp (congrArg _) (congrArg _)

theorem slash_induction {P : List Char → Prop} (last : ∀ piece, '/' ∉ piece → P piece)
    (cut : ∀ piece rest, '/' ∉ piece → P rest → P (piece ++ '/' :: rest)) (path : List Char) :
    P path := by
  have other {piece : List Char} (h : ∀ c ∈ piece, ¬ c = '/') : '/' ∉ piece :=
    fun mem => h '/' mem rfl
  refine Text.cut_induction (p := (· = '/')) (fun piece h => last piece (other h)) ?_ path
  rintro piece _ rest h rfl hrest
  exact cut piece rest (other h) hrest

theorem components_append_slash (front back : List Char) :
    components (front ++ '/' :: back) = components front ++ components back := by
  unfold components
  rw [List.splitOn_append_cons_self, List.filter_append]

theorem components_piece {piece : List Char} (h : '/' ∉ piece) :
    components piece = if piece = [] ∨ piece = ['.'] then [] else [piece] := by
  unfold components
  rw [List.splitOn_eq_singleton h]
  by_cases dropped : piece = [] ∨ piece = ['.']
  · rw [if_pos dropped, List.filter_cons_of_neg (by simpa [or_iff_not_imp_left] using dropped)]
    rfl
  · rw [if_neg dropped, List.filter_cons_of_pos (by simpa using dropped)]
    rfl

theorem components_append_trail {trail : List Char} (h : Trail trail) (path : List Char) :
    components (path ++ trail) = components path := by
  obtain ⟨pieces, rfl, all⟩ := h
  induction pieces generalizing path with
  | nil => rw [List.flatten_nil, List.append_nil]
  | cons p ps ih =>
    obtain ⟨here, later⟩ := List.forall_mem_cons.mp all
    have none : components [] = [] := rfl
    have point : components ['.'] = [] := rfl
    rw [List.flatten_cons, ← List.append_assoc, ih _ later]
    rcases here with rfl | rfl
    · rw [components_append_slash, none, List.append_nil]
    · rw [components_append_slash, point, List.append_nil]

theorem components_eq_nil_of_piece {piece : List Char} (h : '/' ∉ piece) :
    components piece = [] ↔ piece = [] ∨ piece = ['.'] := by
  rw [components_piece h]
  exact ite_eq_left_iff.trans (not_imp_comm.trans (by simp))

theorem trail_of_components_eq_nil {path : List Char} (h : components path = []) :
    Trail ('/' :: path) := by
  induction path using slash_induction with
  | last piece free =>
    have t := trail_cons ((components_eq_nil_of_piece free).mp h) trail_nil
    rwa [List.append_nil] at t
  | cut piece rest free ih =>
    rw [components_append_slash, List.append_eq_nil_iff] at h
    exact trail_cons ((components_eq_nil_of_piece free).mp h.1) (ih h.2)

/-! ## the last component -/

def LastComponent (path base : List Char) : Prop :=
  ∃ dir trail, path = dir ++ base ++ trail ∧ (∀ c ∈ dir.getLast?, c = '/') ∧ Trail trail ∧
    '/' ∉ base ∧ base ≠ [] ∧ base ≠ ['.']

theorem slash_append_slash {front dir : List Char} (h : ∀ c ∈ dir.getLast?, c = '/') :
    ∀ c ∈ (front ++ '/' :: dir).getLast?, c = '/' := by
  rw [List.getLast?_append_cons]
  cases dir with
  | nil =>
    rintro _ ⟨⟩
    rfl
  | cons d ds => rwa [List.getLast?_cons_cons]

theorem exists_last_slash (path : List Char) :
    ∃ dir base, path = dir ++ base ∧ (∀ c ∈ dir.getLast?, c = '/') ∧ '/' ∉ base := by
  induction path using slash_induction with
  | last piece free => exact ⟨[], piece, rfl, nofun, free⟩
  | cut piece rest _ ih =>
    obtain ⟨dir, base, rfl, slash, free⟩ := ih
    exact ⟨piece ++ '/' :: dir, base, by simp, slash_append_slash slash, free⟩

theorem getLast?_components_eq_some_iff {path base : List Char} :
    (components path).getLast? = some base ↔ LastComponent path base := by
  constructor
  · intro h
    have alone {piece : List Char} (free : '/' ∉ piece)
        (h : (components piece).getLast? = some base) :
        piece = base ∧ base ≠ [] ∧ base ≠ ['.'] := by
      rw [components_piece free] at h
      split at h
      · cases h
      · rename_i more
        cases h
        exact ⟨rfl, not_or.mp more⟩
    induction path using slash_induction with
    | last piece free =>
      obtain ⟨rfl, kept⟩ := alone free h
      exact ⟨[], [], (List.append_nil _).symm, nofun, trail_nil, free, kept⟩
    | cut piece rest free ih =>
      rw [components_append_slash] at h
      by_cases nothing : components rest = []
      · rw [nothing, List.append_nil] at h
        obtain ⟨rfl, kept⟩ := alone free h
        exact ⟨[], _, rfl, nofun, trail_of_components_eq_nil nothing, free, kept⟩
      · rw [List.getLast?_append_of_ne_nil _ nothing] at h
        obtain ⟨dir, trail, rfl, slash, t, kept⟩ := ih h
        exact ⟨piece ++ '/' :: dir, trail, by simp, slash_append_slash slash, t, kept⟩
  · rintro ⟨dir, trail, rfl, slash, t, free, ne, ne'⟩
    rw [components_append_trail t]
    have alone : components base = [base] := by
      rw [components_piece free, if_neg (not_or.mpr ⟨ne, ne'⟩)]
    rcases dir.eq_nil_or_concat with rfl | ⟨front, c, rfl⟩
    · exact congrArg _ alone
    · rw [List.concat_eq_append] at slash ⊢
      obtain rfl := slash c List.getLast?_concat
      rw [List.append_assoc, List.singleton_append, components_append_slash, alone,
        List.getLast?_concat]

/-! ## the extension -/

theorem baseName?_eq_some_iff {path base : List Char} :
    baseName? path = some base ↔ LastComponent path base ∧ base ≠ ['.', '.'] := by
  rw [← getLast?_components_eq_some_iff]
  unfold baseName?
  cases (components path).getLast? with
  | none => exact ⟨nofun, nofun⟩
  | some name =>
    show (if _ then _ else _) = _ ↔ _
    rw [Option.ite_none_left_eq_some, and_comm, Option.some.injEq]
    exact and_congr_right fun e => by rw [e]

theorem takeWhile_ne_point (stem : List Char) {e : List Char} (h : '.' ∉ e) :
    (stem ++ '.' :: e).reverse.takeWhile (· ≠ '.') = e.reverse ∧
      (stem ++ '.' :: e).reverse.dropWhile (· ≠ '.') = '.' :: stem.reverse := by
  have run : ∀ c ∈ e.reverse, decide (c ≠ '.') = true := fun c hc =>
    decide_eq_true (ne_of_mem_of_not_mem (List.mem_reverse.mp hc) h)
  have stop : ∀ c ∈ ('.' :: stem.reverse).head?, ¬ decide (c ≠ '.') = true := by
    rintro _ ⟨⟩
    decide
  rw [List.reverse_append, List.reverse_cons, List.append_assoc, List.singleton_append]
  exact ⟨Text.takeWhile_run run stop, Text.dropWhile_run run stop⟩

theorem eq_append_point {base rest : List Char} {point : Char}
    (h : base.reverse.dropWhile (· ≠ '.') = point :: rest) :
    ∃ e, base = rest.reverse ++ '.' :: e ∧ '.' ∉ e ∧ base.reverse.takeWhile (· ≠ '.') = e.reverse := by
  obtain rfl : point = '.' := by
    simpa using Text.head?_dropWhile_of_neg (· ≠ '.') base.reverse point (by rw [h]; rfl)
  refine ⟨(base.reverse.takeWhile (· ≠ '.')).reverse, ?_, fun mem => ?_,
    (List.reverse_reverse _).symm⟩
  · have parts := List.takeWhile_append_dropWhile (p := (· ≠ '.')) (l := base.reverse)
    rw [h] at parts
    refine List.reverse_injective ?_
    simpa using parts.symm
  · simpa using List.mem_takeWhile_imp (List.mem_reverse.mp mem)

/-- the point in front of an extension is the last one of the component, and does not open it -/
theorem extension?_eq_some_iff {path e : List Char} :
    extension? path = some e ↔ ∃ stem, stem ≠ [] ∧ '.' ∉ e ∧
      LastComponent path (stem ++ '.' :: e) ∧ stem ++ '.' :: e ≠ ['.', '.'] := by
  unfold extension?
  rw [Option.bind_eq_bind, Option.bind_eq_some_iff]
  constructor
  · rintro ⟨base, hbase, h⟩
    dsimp only at h
    split at h
    · rename_i point d ds whole
      obtain ⟨e', rfl, run, taken⟩ := eq_append_point whole
      rw [taken, List.reverse_reverse] at h
      cases h
      exact ⟨_, List.reverse_ne_nil_iff.mpr (List.cons_ne_nil d ds), run,
        baseName?_eq_some_iff.mp hbase⟩
    · cases h
  · rintro ⟨stem, ne, run, base⟩
    refine ⟨_, baseName?_eq_some_iff.mpr base, ?_⟩
    obtain ⟨taken, dropped⟩ := takeWhile_ne_point stem run
    obtain ⟨d, ds, rev⟩ := List.exists_cons_of_ne_nil (List.reverse_ne_nil_iff.mpr ne)
    dsimp only
    rw [dropped, taken, rev, List.reverse_reverse]

/-! ## kinds -/

theorem toLower_eq_point_iff {c : Char} : c.toLower = '.' ↔ c = '.' := by
  constructor
  · intro h
    have all : ∀ n < 0x80, (Char.ofNat n).toLower = '.' → Char.ofNat n = '.' := by decide +kernel
    have ascii := Text.toNat_lt_of_toLower (c := c) (by rw [h]; decide)
    have hc := all c.toNat ascii
    rw [Char.ofNat_toNat] at hc
    exact hc h
  · rintro rfl
    rfl

theorem map_toLower_eq_csvSuffix_iff {suffix : List Char} :
    suffix.map Char.toLower = csvSuffix ↔
      ∃ e : List Char, suffix = '.' :: e ∧ e.map Char.toLower = ['c', 's', 'v'] := by
  unfold csvSuffix
  rw [List.map_eq_cons_iff]
  simp only [toLower_eq_point_iff]
  constructor
  · rintro ⟨_, e, rfl, rfl, he⟩
    exact ⟨e, rfl, he⟩
  · rintro ⟨e, rfl, he⟩
    exact ⟨_, e, rfl, rfl, he⟩

/-- `.csv` behind another character than a slash, and then a trail -/
def CsvThen (trail path : List Char) : Prop :=
  ∃ front c suffix, path = front ++ c :: suffix ++ trail ∧ c ≠ '/' ∧
    suffix.map Char.toLower = csvSuffix

theorem exists_csvThen_iff {path : List Char} :
    (∃ trail, Trail trail ∧ CsvThen trail path) ↔
      ∃ e, extension? path = some e ∧ e.map Char.toLower = ['c', 's', 'v'] := by
  simp only [extension?_eq_some_iff]
  constructor
  · rintro ⟨trail, t, front, c, suffix, rfl, here, lowered⟩
    obtain ⟨e, rfl, he⟩ := map_toLower_eq_csvSuffix_iff.mp lowered
    have plain {d : Char} (hd : d.toLower ∉ ['c', 's', 'v']) : d ∉ e := fun mem =>
      hd (he ▸ List.mem_map_of_mem mem)
    obtain ⟨dir, base, rfl, slash, free⟩ := exists_last_slash front
    have long : e.length = 3 := by simpa using congrArg List.length he
    have other {short : List Char} (h : short.length < 5) : base ++ [c] ++ '.' :: e ≠ short := by
      rintro rfl
      simp at h
      omega
    have noSlash : '/' ∉ base ++ [c] ++ '.' :: e := by
      simp [free, here.symm, plain (d := '/') (by decide)]
    have component : LastComponent (dir ++ base ++ c :: '.' :: e ++ trail) (base ++ [c] ++ '.' :: e) :=
      ⟨dir, trail, by simp, slash, t, noSlash, other (by decide), other (by decide)⟩
    exact ⟨e, ⟨base ++ [c], by simp, plain (by decide), component, other (by decide)⟩, he⟩
  · rintro ⟨e, ⟨stem, ne, -, ⟨dir, trail, rfl, -, t, free, -⟩, -⟩, he⟩
    have lowered := map_toLower_eq_csvSuffix_iff.mpr ⟨e, rfl, he⟩
    rcases stem.eq_nil_or_concat with rfl | ⟨front, c, rfl⟩
    · exact absurd rfl ne
    · refine ⟨trail, t, dir ++ front, c, '.' :: e, by simp, ?_, lowered⟩
      rintro rfl
      simp at free

/-- a path whose last component is more than `.csv` and ends so, with something behind it -/
def TrailsCsv (name : String) : Prop :=
  ∃ trail, trail ≠ [] ∧ Trail trail ∧ CsvThen trail name.toList

theorem CsvThen.endsInCsv {name : String} (h : CsvThen [] name.toList) : EndsInCsv name := by
  obtain ⟨front, c, suffix, whole, -, lowered⟩ := h
  unfold EndsInCsv
  rw [whole, List.append_nil, List.append_cons, List.map_append, lowered]
  exact List.suffix_append _ _

theorem Trail.getLast? {trail : List Char} (h : Trail trail) :
    ∀ c ∈ trail.getLast?, c = '/' ∨ c = '.' := by
  obtain ⟨pieces, rfl, all⟩ := h
  intro c hc
  obtain ⟨p, hp, mem⟩ := List.mem_flatten.mp (List.mem_of_getLast? hc)
  rcases all p hp with rfl | rfl <;> simp_all

theorem TrailsCsv.not_endsInCsv {name : String} (h : TrailsCsv name) : ¬ EndsInCsv name := by
  rintro ⟨init, ends⟩
  obtain ⟨trail, ne, t, front, c, suffix, whole, -⟩ := h
  have last : (name.toList.map Char.toLower).getLast? = some 'v' := by
    rw [← ends, csvSuffix, List.getLast?_append_cons]
    rfl
  rw [List.getLast?_map, whole, List.getLast?_append_of_ne_nil _ ne,
    Option.map_eq_some_iff] at last
  obtain ⟨d, hd, lowered⟩ := last
  rcases t.getLast? d hd with rfl | rfl <;> exact absurd lowered (by decide)

namespace FileKind

theorem ofPath_eq_csv_iff {path : String} :
    ofPath path = .csv ↔ ∃ trail, Trail trail ∧ CsvThen trail path.toList := by
  rw [exists_csvThen_iff]
  unfold ofPath lowercaseExtension?
  cases extension? path.toList with
  | none => exact ⟨nofun, fun ⟨_, h, _⟩ => absurd h nofun⟩
  | some e =>
    have letters : ['c', 's', 'v'] ⊆ csvSuffix := List.subset_cons_self _ _
    have csv : "csv" = String.ofList ['c', 's', 'v'] := rfl
    have lowered : String.ofList (Text.lowercase e) = "csv" ↔
        e.map Char.toLower = ['c', 's', 'v'] := by
      rw [csv, String.ofList_inj, Text.lowercase_eq_iff letters]
    simp [lowered]

theorem ofName_of_not_endsInCsv {name : String} (h : ¬ EndsInCsv name) :
    ofName name = ofPath name :=
  if_neg ((suffix_lowercase_iff name).not.mpr h)

theorem ofName_eq_csv_iff (name : String) :
    ofName name = .csv ↔ EndsInCsv name ∨ TrailsCsv name := by
  constructor
  · intro h
    by_cases ends : EndsInCsv name
    · exact Or.inl ends
    · rw [ofName_of_not_endsInCsv ends] at h
      obtain ⟨trail, t, behind⟩ := ofPath_eq_csv_iff.mp h
      refine Or.inr ⟨trail, ?_, t, behind⟩
      rintro rfl
      exact ends behind.endsInCsv
  · rintro (ends | trails)
    · exact ofName_eq_csv ends
    · rw [ofName_of_not_endsInCsv trails.not_endsInCsv]
      obtain ⟨trail, -, t, behind⟩ := trails
      exact ofPath_eq_csv_iff.mpr ⟨trail, t, behind⟩

end FileKind

namespace Dataset

theorem ofRows_ne_invalidFile (limits : RowLimits) (rows : List (List String)) :
    ofRows limits rows ≠ .error .invalidFile := by
  intro invalid
  cases rows with
  | nil => cases invalid
  | cons headers rows =>
    rw [ofRows] at invalid
    split at invalid <;> cases invalid

theorem ofFile_eq_invalidFile_iff {name : String} {bytes : List UInt8} {limits : RowLimits} :
    ofFile name bytes limits = .error .invalidFile ↔
      FileKind.ofName name ≠ .csv ∨ csvCells? bytes = none := by
  unfold ofFile
  by_cases csv : FileKind.ofName name = .csv
  · rw [if_pos csv]
    cases csvCells? bytes with
    | none => exact ⟨fun _ => Or.inr rfl, fun _ => rfl⟩
    | some rows =>
      refine iff_of_false (ofRows_ne_invalidFile limits rows) ?_
      exact not_or.mpr ⟨not_not.mpr csv, nofun⟩
  · rw [if_neg csv]
    exact ⟨fun _ => Or.inl csv, fun _ => rfl⟩

/-- **The names of tables.**  A name is that of a table if it ends in `.csv`.  So is a name that does not,
if without the slashes at its end, and points between them, it would, and its last component would be
more than `.csv`; all other names are told by their end alone.  Under a name that is not that of a table
a file is invalid whatever it holds, and under one that is only for bytes that are no text. -/
theorem table_names (name : String) (bytes : List UInt8) (limits : RowLimits) :
    (FileKind.ofName name = .csv ↔ EndsInCsv name ∨ TrailsCsv name) ∧
    ((FileKind.ofName name = .csv ↔ EndsInCsv name) ↔ ¬ TrailsCsv name) ∧
    (¬ EndsInCsv name → ¬ TrailsCsv name → ofFile name bytes limits = .error .invalidFile) ∧
    (EndsInCsv name ∨ TrailsCsv name → (ofFile name bytes limits = .error .invalidFile ↔
      ∃ row ∈ csvRows bytes, ∃ field ∈ row, ¬ field.toByteArray.IsValidUTF8)) := by
  have csv := FileKind.ofName_eq_csv_iff name
  rw [ofFile_eq_invalidFile_iff]
  refine ⟨csv, ⟨fun byEnd trails => ?_, fun plain => ?_⟩, fun ends trails => ?_, fun table => ?_⟩
  · exact trails.not_endsInCsv (byEnd.mp (csv.mpr (Or.inr trails)))
  · exact csv.trans (or_iff_left plain)
  · exact Or.inl (csv.not.mpr (not_or.mpr ⟨ends, trails⟩))
  · simp only [← isText_iff, ← csvCells?_eq_none_iff]
    exact or_iff_right (not_not.mpr (csv.mpr table))

/-- capitals; nothing but the suffix in its directory; and a point behind the slash -/
theorem table_names_of_three :
    EndsInCsv "Sales.CSV" ∧
      ofFile "Sales.CSV" (utf8 "a\n1\n") {} ≠ .error .invalidFile ∧
      ¬ EndsInCsv "a/.csv/" ∧ ¬ TrailsCsv "a/.csv/" ∧
      ofFile "a/.csv/" (utf8 "a\n1\n") {} = .error .invalidFile ∧
      TrailsCsv "dir.csv/." ∧ ¬ EndsInCsv "dir.csv/." ∧
      ofFile "dir.csv/." [0xFF] {} = .error .invalidFile := by
  obtain ⟨-, -, -, text⟩ := table_names "Sales.CSV" (utf8 "a\n1\n") {}
  obtain ⟨-, byEnd, refused, -⟩ := table_names "a/.csv/" (utf8 "a\n1\n") {}
  obtain ⟨names, -, -, undecodable⟩ := table_names "dir.csv/." [0xFF] {}
  have capitals : EndsInCsv "Sales.CSV" := by decide
  have hidden : ¬ EndsInCsv "a/.csv/" := by decide
  have plain : ¬ TrailsCsv "a/.csv/" := byEnd.mp (by decide)
  have pointed : ¬ EndsInCsv "dir.csv/." := by decide
  have trails : TrailsCsv "dir.csv/." := (names.mp (by decide)).resolve_left pointed
  exact ⟨capitals, (text (Or.inl capitals)).not.mpr (by decide), hidden, plain,
    refused hidden plain, trails, pointed, (undecodable (Or.inr trails)).mpr (by decide)⟩

/-- no name that ends in `.csv`, but the file is read -/
theorem trailing_slash_accepted :
    ¬ EndsInCsv "data.csv/" ∧ FileKind.ofName "data.csv/" = .csv ∧
      ofFile "data.csv/" (utf8 "a\n1\n") {} = .ok { table := ⟨["a"], [⟨[("a", "1")]⟩]⟩ } :=
  ⟨by decide, rfl, rfl⟩

end Dataset

end TableChart
