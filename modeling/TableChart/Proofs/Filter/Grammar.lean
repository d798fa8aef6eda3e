import Mathlib.Data.List.Basic
import TableChart.Filter.Expression
import TableChart.Proofs.Text.Trim

/-!
# The grammar of filter expressions

* `Opening op cs`          a text cut into a column, blanks, the symbol of `op` and a rest;
* `Splitting op cs`        an opening with the rest cut into blanks and a value on one line;
* `split?_eq_some_iff`     reading finds a splitting if there is one; there is never a second;
* `Condition.read_eq_ok_iff`   what is read is the splitting of the first operator that has one;
* `reads_exactly_its_grammar`   the same together with what is refused, and how.

Names, symbols and blanks have no characters in common, so where a name ends, and where blanks end
before a symbol, is settled by the characters alone.  Blanks behind the symbol end where the value
begins, because a value does not begin with one.
-/

namespace TableChart

/-! ## characters -/

theorem toNat_of_isWord {c : Char} (h : isWord c) : '0'.toNat ≤ c.toNat ∧ c.toNat ≤ 'z'.toNat := by
  have ends : '9'.toNat ≤ 'z'.toNat ∧ '0'.toNat ≤ 'A'.toNat ∧ 'Z'.toNat ≤ 'z'.toNat ∧
      '0'.toNat ≤ 'a'.toNat ∧ '0'.toNat ≤ '_'.toNat ∧ '_'.toNat ≤ 'z'.toNat := by decide
  rcases Bool.or_eq_true_iff.mp h with alphanum | underscore
  · rcases Bool.or_eq_true_iff.mp alphanum with alpha | digit
    · rcases Bool.or_eq_true_iff.mp alpha with upper | lower
      · obtain ⟨lo, hi⟩ := of_decide_eq_true upper
        have lo : 'A'.toNat ≤ c.toNat := UInt32.le_iff_toNat_le.mp lo
        have hi : c.toNat ≤ 'Z'.toNat := UInt32.le_iff_toNat_le.mp hi
        omega
      · obtain ⟨lo, hi⟩ := Bool.and_eq_true_iff.mp lower
        have lo : 'a'.toNat ≤ c.toNat := UInt32.le_iff_toNat_le.mp (of_decide_eq_true lo)
        have hi : c.toNat ≤ 'z'.toNat := UInt32.le_iff_toNat_le.mp (of_decide_eq_true hi)
        omega
    · have range := Char.isDigit_iff_toNat.mp digit
      omega
  · rw [beq_iff_eq.mp underscore]
    omega

theorem not_isBlank_of_isWord {c : Char} (h : isWord c) : ¬ Text.isBlank c := by
  have range := toNat_of_isWord h
  have ends : 0x20 < '0'.toNat ∧ 'z'.toNat < 0x7F := by decide
  exact Text.not_isBlank_of_range (Nat.lt_of_lt_of_le ends.1 range.1)
    (Nat.lt_of_le_of_lt range.2 ends.2)

namespace Operator

/-- a symbol is no part of a name, and no blank -/
theorem exists_symbol (op : Operator) :
    ∃ c rest, op.symbol = c :: rest ∧ ¬ isWord c ∧ ¬ Text.isBlank c := by
  cases op <;> exact ⟨_, _, rfl, by decide, by decide⟩

theorem mem_all (op : Operator) : op ∈ all := by
  cases op <;> decide

/-- the operators that are looked for before this one -/
def earlier (op : Operator) : List Operator := all.takeWhile (· ≠ op)

theorem all_eq (op : Operator) : ∃ later, all = op.earlier ++ op :: later := by
  cases op <;> exact ⟨_, rfl⟩

theorem eq_earlier {op : Operator} {before later : List Operator} (h : all = before ++ op :: later) :
    before = op.earlier := by
  have distinct : (before ++ op :: later).Nodup := h ▸ by decide
  have absent : ∀ x ∈ before, x ≠ op := fun x hx =>
    (List.nodup_append.mp distinct).2.2 x hx op List.mem_cons_self
  rw [earlier, h]
  refine (Text.takeWhile_run (fun x hx => decide_eq_true (absent x hx)) ?_).symm
  rintro _ ⟨⟩
  simp

/-- no earlier symbol begins a symbol that is not followed by `=` -/
theorem append_ne_of_earlier {op earlier : Operator} (h : earlier ∈ op.earlier) {rest : List Char}
    (stop : rest.head? ≠ some '=') (cs : List Char) : earlier.symbol ++ cs ≠ op.symbol ++ rest := by
  intro e
  cases op <;> cases earlier <;> first
    | exact absurd h (by decide)
    | exact stop (congrArg List.head? (List.cons.inj e).2).symm
    | exact nomatch (List.cons.inj e).1

end Operator

/-! ## openings -/

structure Opening (op : Operator) (cs : List Char) where
  column : List Char
  before : List Char
  rest : List Char
  joined : column ++ (before ++ (op.symbol ++ rest)) = cs
  column_ne : column ≠ []
  column_word : ∀ c ∈ column, isWord c
  before_blank : ∀ c ∈ before, Text.isBlank c

namespace Opening
variable {op : Operator} {cs : List Char} (o : Opening op cs)

theorem symbol_stop {P : Char → Prop} (h : ∀ c, ¬ isWord c → ¬ Text.isBlank c → P c) :
    ∀ c ∈ (op.symbol ++ o.rest).head?, P c := by
  obtain ⟨c, rest, hc, word, blank⟩ := op.exists_symbol
  rw [hc]
  rintro _ ⟨⟩
  exact h c word blank

theorem column_stop : ∀ c ∈ (o.before ++ (op.symbol ++ o.rest)).head?, ¬ isWord c :=
  Text.forall_head?_append (fun c hc word => not_isBlank_of_isWord word (o.before_blank c hc))
    (o.symbol_stop fun _ word _ => word)

theorem takeWhile_isWord : cs.takeWhile isWord = o.column :=
  (congrArg (List.takeWhile isWord) o.joined).symm.trans
    (Text.takeWhile_run o.column_word o.column_stop)

theorem dropWhile_isWord : cs.dropWhile isWord = o.before ++ (op.symbol ++ o.rest) :=
  (congrArg (List.dropWhile isWord) o.joined).symm.trans
    (Text.dropWhile_run o.column_word o.column_stop)

theorem takeWhile_isBlank : (cs.dropWhile isWord).takeWhile Text.isBlank = o.before := by
  rw [dropWhile_isWord]
  exact Text.takeWhile_run o.before_blank (o.symbol_stop fun _ _ blank => blank)

theorem dropWhile_isBlank :
    (cs.dropWhile isWord).dropWhile Text.isBlank = op.symbol ++ o.rest := by
  rw [dropWhile_isWord]
  exact Text.dropWhile_run o.before_blank (o.symbol_stop fun _ _ blank => blank)

/-- the rest without the blanks behind the symbol -/
def value : List Char := o.rest.dropWhile Text.isBlank

end Opening

/-! ## splittings -/

@[ext]
structure Splitting (op : Operator) (cs : List Char) where
  column : List Char
  before : List Char
  after : List Char
  value : List Char
  joined : column ++ (before ++ (op.symbol ++ (after ++ value))) = cs
  column_ne : column ≠ []
  column_word : ∀ c ∈ column, isWord c
  before_blank : ∀ c ∈ before, Text.isBlank c
  after_blank : ∀ c ∈ after, Text.isBlank c
  value_ne : value ≠ []
  value_first : ∀ c ∈ value.head?, ¬ Text.isBlank c
  one_line : '\n' ∉ value

namespace Splitting
variable {op : Operator} {cs : List Char}

def condition (s : Splitting op cs) : Condition :=
  ⟨String.ofList s.column, op, Value.ofToken s.value⟩

def opening (s : Splitting op cs) : Opening op cs where
  column := s.column
  before := s.before
  rest := s.after ++ s.value
  joined := s.joined
  column_ne := s.column_ne
  column_word := s.column_word
  before_blank := s.before_blank

theorem takeWhile_after (s : Splitting op cs) :
    (s.after ++ s.value).takeWhile Text.isBlank = s.after :=
  Text.takeWhile_run s.after_blank s.value_first

theorem dropWhile_after (s : Splitting op cs) :
    (s.after ++ s.value).dropWhile Text.isBlank = s.value :=
  Text.dropWhile_run s.after_blank s.value_first

theorem head?_of_splitting (s : Splitting op cs) : ∀ c ∈ cs.head?, ¬ Text.isBlank c := by
  rw [← s.joined, List.head?_append_of_ne_nil _ s.column_ne]
  exact fun c hc => not_isBlank_of_isWord (s.column_word c (List.mem_of_head? hc))

theorem getLast?_of_splitting (s : Splitting op cs) : cs.getLast? = s.value.getLast? := by
  refine (congrArg List.getLast? s.joined).symm.trans ?_
  rw [List.getLast?_append_of_ne_nil _ (by simp [s.value_ne]),
    List.getLast?_append_of_ne_nil _ (by simp [s.value_ne]),
    List.getLast?_append_of_ne_nil _ (by simp [s.value_ne]),
    List.getLast?_append_of_ne_nil _ s.value_ne]

/-- a name in front and a value at the end, only what stands behind is trimmed -/
theorem trim_append (s : Splitting op cs) (last : ∀ c ∈ s.value.getLast?, ¬ Text.isBlank c)
    {back : List Char} (behind : ∀ c ∈ back, Text.isBlank c) : Text.trim (cs ++ back) = cs := by
  have some : cs ≠ [] := fun none => s.column_ne (List.append_eq_nil_iff.mp (s.joined.trans none)).1
  have last : ∀ c ∈ cs.getLast?, ¬ Text.isBlank c := s.getLast?_of_splitting ▸ last
  exact Text.trim_enclosed (List.forall_mem_nil _) behind some s.head?_of_splitting last

/-- **A text has at most one splitting** for each operator. -/
instance : Subsingleton (Splitting op cs) where
  allEq s t := by
    have rest : s.after ++ s.value = t.after ++ t.value :=
      List.append_cancel_left (s.opening.dropWhile_isBlank.symm.trans t.opening.dropWhile_isBlank)
    ext1
    · exact s.opening.takeWhile_isWord.symm.trans t.opening.takeWhile_isWord
    · exact s.opening.takeWhile_isBlank.symm.trans t.opening.takeWhile_isBlank
    · rw [← s.takeWhile_after, rest, t.takeWhile_after]
    · rw [← s.dropWhile_after, rest, t.dropWhile_after]

end Splitting

/-- the splitting with the same symbol -/
def Opening.splitting {op : Operator} {cs : List Char} (o : Opening op cs) (value_ne : o.value ≠ [])
    (one_line : '\n' ∉ o.value) : Splitting op cs where
  column := o.column
  before := o.before
  after := o.rest.takeWhile Text.isBlank
  value := o.value
  joined := by rw [value, List.takeWhile_append_dropWhile, o.joined]
  column_ne := o.column_ne
  column_word := o.column_word
  before_blank := o.before_blank
  after_blank := fun _ => List.mem_takeWhile_imp
  value_ne := value_ne
  value_first := Text.head?_dropWhile_of_neg Text.isBlank _
  one_line := one_line

/-! ## reading -/

theorem split?_eq (op : Operator) (cs : List Char) :
    split? op cs = (op.symbol.isPrefixOf? ((cs.dropWhile isWord).dropWhile Text.isBlank)).bind
      fun rest =>
        if cs.takeWhile isWord ≠ [] ∧ rest.dropWhile Text.isBlank ≠ [] ∧
            '\n' ∉ rest.dropWhile Text.isBlank then
          some ⟨String.ofList (cs.takeWhile isWord), op, Value.ofToken (rest.dropWhile Text.isBlank)⟩
        else none := rfl

theorem split?_eq_some_iff {op : Operator} {cs : List Char} {c : Condition} :
    split? op cs = some c ↔ ∃ s : Splitting op cs, s.condition = c := by
  rw [split?_eq, Option.bind_eq_some_iff]
  constructor
  · rintro ⟨rest, hrest, h⟩
    have joined := List.isPrefixOf?_eq_some_iff_append_eq.mp hrest
    split at h
    · rename_i parts
      obtain ⟨column_ne, value_ne, one_line⟩ := parts
      let o : Opening op cs :=
        { column := cs.takeWhile isWord
          before := (cs.dropWhile isWord).takeWhile Text.isBlank
          rest := rest
          joined := by
            rw [joined, List.takeWhile_append_dropWhile, List.takeWhile_append_dropWhile]
          column_ne := column_ne
          column_word := fun _ => List.mem_takeWhile_imp
          before_blank := fun _ => List.mem_takeWhile_imp }
      exact ⟨o.splitting value_ne one_line, Option.some.inj h⟩
    · exact absurd h nofun
  · rintro ⟨s, rfl⟩
    refine ⟨s.after ++ s.value, ?_, ?_⟩
    · rw [s.opening.dropWhile_isBlank]
      exact List.isPrefixOf?_eq_some_iff_append_eq.mpr rfl
    · rw [s.opening.takeWhile_isWord, s.dropWhile_after]
      exact if_pos ⟨s.column_ne, s.value_ne, s.one_line⟩

theorem split?_eq_none_iff {op : Operator} {cs : List Char} :
    split? op cs = none ↔ IsEmpty (Splitting op cs) := by
  constructor
  · intro h
    refine ⟨fun s => ?_⟩
    have found := split?_eq_some_iff.mpr ⟨s, rfl⟩
    rw [h] at found
    exact absurd found nofun
  · rintro ⟨h⟩
    by_contra found
    obtain ⟨c, hc⟩ := Option.ne_none_iff_exists'.mp found
    obtain ⟨s, -⟩ := split?_eq_some_iff.mp hc
    exact h s

theorem isBlankText_iff (e : String) : isBlankText e ↔ Text.trim e.toList = [] := by
  rw [isBlankText, List.all_eq_true, Text.trim_eq_nil_iff]

theorem isEmpty_of_blank {op : Operator} : IsEmpty (Splitting op []) where
  false s := s.column_ne (List.append_eq_nil_iff.mp s.joined).1

/-- the search for an operator, as it is written in `Condition.read` -/
theorem findSome?_split?_eq_some_iff {cs : List Char} {c : Condition} :
    Operator.all.findSome? (fun op => split? op cs) = some c ↔
      ∃ s : Splitting c.operator cs, s.condition = c ∧
        ∀ op ∈ c.operator.earlier, IsEmpty (Splitting op cs) := by
  rw [List.findSome?_eq_some_iff]
  constructor
  · rintro ⟨before, op, later, hall, hop, none_earlier⟩
    obtain ⟨s, rfl⟩ := split?_eq_some_iff.mp hop
    refine ⟨s, rfl, fun op' hop' => split?_eq_none_iff.mp (none_earlier op' ?_)⟩
    rw [Operator.eq_earlier hall]
    exact hop'
  · rintro ⟨s, hs, none_earlier⟩
    obtain ⟨later, hall⟩ := c.operator.all_eq
    exact ⟨_, _, later, hall, split?_eq_some_iff.mpr ⟨s, hs⟩, fun op hop =>
      split?_eq_none_iff.mpr (none_earlier op hop)⟩

theorem findSome?_split?_eq_none_iff {cs : List Char} :
    Operator.all.findSome? (fun op => split? op cs) = none ↔ ∀ op, IsEmpty (Splitting op cs) := by
  rw [List.findSome?_eq_none_iff]
  exact ⟨fun h op => split?_eq_none_iff.mp (h op op.mem_all),
    fun h op _ => split?_eq_none_iff.mpr (h op)⟩

namespace Condition

theorem read_of_blank {e : String} (h : isBlankText e) : read e = .error .empty := if_pos h

theorem read_of_not_blank {e : String} (h : ¬ isBlankText e) :
    read e = (Operator.all.findSome? fun op => split? op (Text.trim e.toList)).elim
      (.error (.malformed e)) .ok := by
  rw [read, if_neg h]
  cases Operator.all.findSome? fun op => split? op (Text.trim e.toList) <;> rfl

theorem read_eq_ok_iff {e : String} {c : Condition} :
    read e = .ok c ↔ ∃ s : Splitting c.operator (Text.trim e.toList), s.condition = c ∧
      ∀ op ∈ c.operator.earlier, IsEmpty (Splitting op (Text.trim e.toList)) := by
  rw [← findSome?_split?_eq_some_iff]
  by_cases blank : isBlankText e
  · rw [read_of_blank blank, (isBlankText_iff e).mp blank,
      findSome?_split?_eq_none_iff.mpr fun _ => isEmpty_of_blank]
    exact ⟨nofun, nofun⟩
  · rw [read_of_not_blank blank]
    cases Operator.all.findSome? fun op => split? op (Text.trim e.toList) with
    | none => exact ⟨nofun, nofun⟩
    | some c' => exact ⟨fun h => congrArg some (Except.ok.inj h), fun h => congrArg Except.ok (Option.some.inj h)⟩

theorem read_eq_error_iff {e : String} {f : FilterFault} :
    read e = .error f ↔ (∀ op, IsEmpty (Splitting op (Text.trim e.toList))) ∧
      f = if isBlankText e then .empty else .malformed e := by
  rw [← findSome?_split?_eq_none_iff]
  by_cases blank : isBlankText e
  · rw [read_of_blank blank, if_pos blank, (isBlankText_iff e).mp blank,
      findSome?_split?_eq_none_iff.mpr fun _ => isEmpty_of_blank]
    exact ⟨fun h => ⟨rfl, (Except.error.inj h).symm⟩, fun h => congrArg _ h.2.symm⟩
  · rw [read_of_not_blank blank, if_neg blank]
    cases Operator.all.findSome? fun op => split? op (Text.trim e.toList) with
    | none => exact ⟨fun h => ⟨rfl, (Except.error.inj h).symm⟩, fun h => congrArg _ h.2.symm⟩
    | some c' => exact ⟨nofun, fun h => absurd h.1 nofun⟩

theorem read_of_splitting {e : String} {cs : List Char} (ends : Text.trim e.toList = cs)
    {op : Operator} (s : Splitting op cs) (stop : (s.after ++ s.value).head? ≠ some '=') :
    read e = .ok s.condition := by
  subst ends
  exact read_eq_ok_iff.mpr ⟨s, rfl, fun _ earlier => ⟨fun t =>
    Operator.append_ne_of_earlier earlier stop _
      (t.opening.dropWhile_isBlank.symm.trans s.opening.dropWhile_isBlank)⟩⟩

end Condition

/-- **Reading accepts exactly the grammar.**  The condition that is read is the splitting of the
trimmed expression for the first operator that has one, which is the only one for that operator;
every other expression is refused with a text that quotes it untrimmed, unless it is blank. -/
theorem reads_exactly_its_grammar (e : String) :
    let text := Text.trim e.toList
    (∀ c, Condition.read e = .ok c ↔ ∃ s : Splitting c.operator text, s.condition = c ∧
      ∀ op ∈ c.operator.earlier, IsEmpty (Splitting op text)) ∧
    (∀ op, Subsingleton (Splitting op text)) ∧
    ∀ f : Fault, (Condition.read e).mapError FilterFault.toFault = .error f ↔
      (∀ op, IsEmpty (Splitting op text)) ∧
      f = .filterRejected (if e.toList.all Text.isBlank then "Filter expression cannot be empty"
        else "Invalid filter expression: " ++ e) := by
  refine ⟨fun c => Condition.read_eq_ok_iff, fun op => inferInstance, fun f => ?_⟩
  have refused : (Condition.read e).mapError FilterFault.toFault = .error f ↔
      ∃ fault, Condition.read e = .error fault ∧ fault.toFault = f := by
    cases Condition.read e with
    | ok c => exact ⟨nofun, nofun⟩
    | error fault =>
      exact ⟨fun h => ⟨fault, rfl, Except.error.inj h⟩, fun ⟨_, h, hf⟩ =>
        congrArg _ (Except.error.inj h ▸ hf)⟩
  have text : (if isBlankText e then FilterFault.empty else .malformed e).toFault =
      .filterRejected (if e.toList.all Text.isBlank then "Filter expression cannot be empty"
        else "Invalid filter expression: " ++ e) := by
    rw [← isBlankText]
    split <;> rfl
  rw [refused, ← text]
  constructor
  · rintro ⟨fault, h, rfl⟩
    obtain ⟨none_splits, rfl⟩ := Condition.read_eq_error_iff.mp h
    exact ⟨none_splits, rfl⟩
  · rintro ⟨none_splits, rfl⟩
    exact ⟨_, Condition.read_eq_error_iff.mpr ⟨none_splits, rfl⟩, rfl⟩

end TableChart
