import TableChart.Proofs.Filter.Grammar

/-!
# Symbols that begin with another symbol

`>=` and `<=` begin with `>` and `<`, and are looked for before them.

* `Operator.symbol_append_eq`   a text that begins with a long symbol begins with two symbols;
* `Condition.read_of_followed_symbol`   an expression with a long symbol is read with the long
                                        operator or refused, if anything follows the symbol;
* `Condition.read_of_bare_symbol`       if nothing does, the second character of the symbol is taken
                                        for a value.
-/

namespace TableChart

/-! ## symbols -/

namespace Operator

/-- the operator whose symbol is this one without its last character -/
def shortened? : Operator → Option Operator
  | greaterOrEqual => some greaterThan
  | lessOrEqual => some lessThan
  | _ => none

section
variable {long short op : Operator} (h : long.shortened? = some short)
include h

theorem symbol_eq_shortened : long.symbol = short.symbol ++ ['='] := by
  cases long <;> cases h <;> rfl

theorem symbol_append_eq {cs rest : List Char} (heq : op.symbol ++ cs = long.symbol ++ rest) :
    op = long ∧ cs = rest ∨ op = short ∧ cs = '=' :: rest := by
  cases long <;> cases h <;> cases op <;> simp_all [symbol]

theorem shortened_not_mem_earlier : short ∉ long.earlier := by
  cases long <;> cases h <;> decide

end

theorem not_mem_earlier (op : Operator) : op ∉ op.earlier := by
  cases op <;> decide

end Operator

/-! ## openings with a long symbol -/

namespace Opening
variable {op long short : Operator} {cs : List Char}

theorem value_ne (o : Opening op cs) (last : ∀ c ∈ cs.getLast?, ¬ Text.isBlank c)
    (h : o.rest ≠ []) : o.value ≠ [] := by
  intro none
  have blank := List.dropWhile_eq_nil_iff.mp none
  have ends : cs.getLast? = o.rest.getLast? := by
    refine (congrArg List.getLast? o.joined).symm.trans ?_
    rw [List.getLast?_append_of_ne_nil _ (by simp [h]),
      List.getLast?_append_of_ne_nil _ (by simp [h]), List.getLast?_append_of_ne_nil _ h]
  exact last _ (ends.trans (List.getLast?_eq_some_getLast h)) (blank _ (List.getLast_mem h))

/-- the splitting at the short symbol, whose value begins with the end of the long one -/
def shortSplitting (o : Opening long cs) (h : long.shortened? = some short)
    (one_line : '\n' ∉ o.rest) : Splitting short cs where
  column := o.column
  before := o.before
  after := []
  value := '=' :: o.rest
  joined := by
    refine Eq.trans ?_ o.joined
    rw [Operator.symbol_eq_shortened h, List.append_assoc]
    rfl
  column_ne := o.column_ne
  column_word := o.column_word
  before_blank := o.before_blank
  after_blank := nofun
  value_ne := List.cons_ne_nil _ _
  value_first := by
    rintro _ ⟨⟩
    decide
  one_line := by simp [one_line]

/-- every splitting of a text with a long symbol is one of these two -/
theorem value_of_splitting (o : Opening long cs) (h : long.shortened? = some short)
    (s : Splitting op cs) :
    op = long ∧ s.value = o.value ∨ op = short ∧ s.value = '=' :: o.rest := by
  have rest := s.opening.dropWhile_isBlank.symm.trans o.dropWhile_isBlank
  have value : s.value = (s.after ++ s.value).dropWhile Text.isBlank := s.dropWhile_after.symm
  rcases Operator.symbol_append_eq h rest with ⟨rfl, hrest⟩ | ⟨rfl, hrest⟩
  · exact Or.inl ⟨rfl, value.trans (congrArg _ hrest)⟩
  · exact Or.inr ⟨rfl, value.trans (congrArg (List.dropWhile Text.isBlank) hrest)⟩

end Opening

/-! ## reading -/

namespace Condition
variable {long short : Operator} {e : String}

theorem read_of_bare_symbol (h : long.shortened? = some short)
    (o : Opening long (Text.trim e.toList)) (bare : o.rest = []) :
    read e = .ok ⟨String.ofList o.column, short, .text "="⟩ := by
  have one_line : '\n' ∉ o.rest := bare ▸ List.not_mem_nil
  refine read_eq_ok_iff.mpr ⟨o.shortSplitting h one_line, ?_, fun op hop => ⟨fun s => ?_⟩⟩
  · have value : (o.shortSplitting h one_line).value = ['='] := congrArg (List.cons '=') bare
    rw [Splitting.condition, value]
    rfl
  · rcases o.value_of_splitting h s with ⟨rfl, hvalue⟩ | ⟨rfl, -⟩
    · refine s.value_ne (hvalue.trans ?_)
      rw [Opening.value, bare]
      rfl
    · exact Operator.not_mem_earlier _ hop

theorem read_of_followed_symbol (h : long.shortened? = some short)
    (o : Opening long (Text.trim e.toList)) (followed : o.rest ≠ []) :
    read e = if '\n' ∈ o.value then .error (.malformed e)
      else .ok ⟨String.ofList o.column, long, Value.ofToken o.value⟩ := by
  have value_ne := o.value_ne Text.getLast?_trim followed
  split
  · rename_i lines
    have several : '\n' ∈ '=' :: o.rest :=
      List.mem_cons_of_mem _ ((List.dropWhile_sublist _).subset lines)
    refine read_eq_error_iff.mpr ⟨fun op => ⟨fun s => ?_⟩, ?_⟩
    · rcases o.value_of_splitting h s with ⟨-, hvalue⟩ | ⟨-, hvalue⟩
      · exact s.one_line (hvalue ▸ lines)
      · exact s.one_line (hvalue ▸ several)
    · refine (if_neg fun blank => o.column_ne ?_).symm
      have nil := o.joined.trans ((isBlankText_iff e).mp blank)
      exact (List.append_eq_nil_iff.mp nil).1
  · rename_i one_line
    refine read_eq_ok_iff.mpr ⟨o.splitting value_ne one_line, rfl, fun op hop => ⟨fun s => ?_⟩⟩
    rcases o.value_of_splitting h s with ⟨rfl, -⟩ | ⟨rfl, -⟩
    · exact Operator.not_mem_earlier _ hop
    · exact Operator.shortened_not_mem_earlier h hop

/-- **A long symbol is read as one, if anything follows it.**  Then the expression has the long
operator, or is refused for a value of several lines; with nothing behind the symbol it is read with
the short operator and the value `=`. -/
theorem read_of_opening (h : long.shortened? = some short)
    (o : Opening long (Text.trim e.toList)) :
    (o.rest ≠ [] → read e = if '\n' ∈ o.value then .error (.malformed e)
      else .ok ⟨String.ofList o.column, long, Value.ofToken o.value⟩) ∧
    (o.rest = [] → read e = .ok ⟨String.ofList o.column, short, .text "="⟩) :=
  ⟨read_of_followed_symbol h o, read_of_bare_symbol h o⟩

/-- `age >=` with nothing behind it -/
def bareOpening : Opening .greaterOrEqual (Text.trim "age >=".toList) where
  column := ['a', 'g', 'e']
  before := [' ']
  rest := []
  joined := by decide
  column_ne := by decide
  column_word := List.all_eq_true.mp rfl
  before_blank := Text.isBlank_of_mem_space

/-- `age >= 25` -/
def followedOpening : Opening .greaterOrEqual (Text.trim "age >= 25".toList) where
  column := ['a', 'g', 'e']
  before := [' ']
  rest := [' ', '2', '5']
  joined := by decide
  column_ne := by decide
  column_word := List.all_eq_true.mp rfl
  before_blank := Text.isBlank_of_mem_space

theorem read_of_opening_age :
    read "age >=" = .ok ⟨"age", .greaterThan, .text "="⟩ ∧
    read "age >= 25" = .ok ⟨"age", .greaterOrEqual, Value.ofToken ['2', '5']⟩ :=
  ⟨(read_of_opening rfl bareOpening).2 rfl, (read_of_opening rfl followedOpening).1 (by decide)⟩

/-- the text opens with `>=`, and is read with `>` and a value that begins with `=` -/
theorem bare_symbol_misread :
    Nonempty (Opening .greaterOrEqual (Text.trim "age >=".toList)) ∧
    read "age >=" = .ok ⟨"age", .greaterThan, .text "="⟩ :=
  ⟨⟨bareOpening⟩, rfl⟩

end Condition

end TableChart
