import TableChart.Proofs.Filter.Comparison

/-!
# Comparisons and the exact order

A cell and a bound are both rounded before they are compared.

* `NumberText s`                 a text that is read as a number, with what is written in it;
* `NumberText.position_mono`     rounding may bring two numbers together, and never exchanges them;
* `Comparison.keeps_by_exact_order`   so a strict comparison keeps no record that the exact values
                                 rule out, and the others keep every record that these call for.

A text whose exponent is not followed to its end (`Spelling.Followed`) can be read as a number that is
far from its value, and `keeps_by_exact_order` is silent about it.
-/

namespace TableChart

structure NumberText (s : String) where
  spelling : Spelling
  number : Finite64
  text : spelling.text = Text.trim s.toList
  read : readNumber? s = some number
  followed : spelling.Followed

namespace NumberText
variable {s t : String}

def value (n : NumberText s) : ℚ := n.spelling.value

theorem position_mono (m : NumberText s) (n : NumberText t) (h : m.value ≤ n.value) :
    m.number.position ≤ n.number.position :=
  (Spelling.rounds m.followed m.text m.read).position_mono
    (Spelling.rounds n.followed n.text n.read) h

theorem value_lt (m : NumberText s) (n : NumberText t) (h : m.number.position < n.number.position) :
    m.value < n.value :=
  lt_of_not_ge fun le => absurd (n.position_mono m le) (Int.not_le.mpr h)

end NumberText

namespace Comparison
variable {c : Comparison} {records : List Record} {r : Record} {b cell : String}

/-- a record with a number in its cell is kept if the numbers stand as the operator says -/
theorem keeps_of_number {op : Operator} (numeric : op.isNumeric) (one_line : '\n' ∉ b.toList)
    (bound : NumberText b) (mem : r ∈ records) (present : r.cell? c.column = some cell)
    (written : NumberText cell) :
    Keeps records (c.expression op b) r ↔
      op.orders (.finite written.number) (.finite bound.number) := by
  rw [c.keeps_iff numeric one_line bound.read]
  constructor
  · rintro ⟨-, cell', x, present', read, ordered⟩
    obtain rfl := Option.some.inj (present.symm.trans present')
    obtain rfl := Option.some.inj (written.read.symm.trans read)
    exact ordered
  · exact fun ordered => ⟨mem, cell, written.number, present, written.read, ordered⟩

/-- a bound may be put in place of another if every number that passes the one passes the other -/
theorem keeps_of_keeps {op : Operator} (numeric : op.isNumeric) {c' : Comparison}
    (column : c'.column = c.column) {b' : String} (one_line : '\n' ∉ b.toList)
    (one_line' : '\n' ∉ b'.toList) (bound : NumberText b) (bound' : NumberText b')
    (passes : ∀ x, op.orders (.finite x) (.finite bound'.number) →
      op.orders (.finite x) (.finite bound.number))
    (h : Keeps records (c'.expression op b') r) : Keeps records (c.expression op b) r := by
  rw [c'.keeps_iff numeric one_line' bound'.read, column] at h
  obtain ⟨mem, cell, x, present, read, ordered⟩ := h
  exact (c.keeps_iff numeric one_line bound.read).mpr
    ⟨mem, cell, x, present, read, passes x ordered⟩

/-- **Comparisons follow the exact decimal order.**  What is written in a text that is read as a number
is one value.  A strict comparison keeps a record only if the exact values stand as it says, and the
other two keep it whenever they do.  So a lower bound that is raised loses records and wins none, and
an upper bound likewise when it is lowered. -/
theorem keeps_by_exact_order (records : List Record) :
    (∀ s x, readNumber? s = some x → ∃ w : Spelling, w.text = Text.trim s.toList ∧
      ∀ v : Spelling, v.text = Text.trim s.toList → v.value = w.value) ∧
    (∀ (c : Comparison) (b : String), '\n' ∉ b.toList → ∀ bound : NumberText b,
      (∀ op, ∃ kept, selectRecords records (c.expression op b) = .ok kept) ∧
      ∀ r ∈ records, ∀ cell, r.cell? c.column = some cell → ∀ written : NumberText cell,
        (Keeps records (c.expression .greaterThan b) r → bound.value < written.value) ∧
        (Keeps records (c.expression .lessThan b) r → written.value < bound.value) ∧
        (bound.value ≤ written.value → Keeps records (c.expression .greaterOrEqual b) r) ∧
        (written.value ≤ bound.value → Keeps records (c.expression .lessOrEqual b) r)) ∧
    ∀ (low high : Comparison) (b b' : String), high.column = low.column → '\n' ∉ b.toList →
      '\n' ∉ b'.toList → ∀ (bound : NumberText b) (bound' : NumberText b'),
      bound.value ≤ bound'.value → ∀ r,
        (Keeps records (high.expression .greaterOrEqual b') r →
          Keeps records (low.expression .greaterOrEqual b) r) ∧
        (Keeps records (high.expression .greaterThan b') r →
          Keeps records (low.expression .greaterThan b) r) ∧
        (Keeps records (low.expression .lessOrEqual b) r →
          Keeps records (high.expression .lessOrEqual b') r) ∧
        (Keeps records (low.expression .lessThan b) r →
          Keeps records (high.expression .lessThan b') r) := by
  refine ⟨fun s x read => ?_, fun c b one_line bound => ⟨fun op => ?_, ?_⟩, ?_⟩
  · obtain ⟨w, text⟩ := exists_spelling_of_readNumber? read
    refine ⟨w, text, fun v text' => ?_⟩
    exact congrArg Numeral.value (Spelling.exact_congr (text'.trans text.symm))
  · obtain ⟨v, read, -⟩ := c.read_expression op one_line bound.read
    exact ⟨_, selectRecords_of_read read records⟩
  · intro r mem cell present written
    have keeps {op : Operator} (numeric : op.isNumeric) :=
      keeps_of_number numeric one_line bound mem present written
    refine ⟨fun kept => ?_, fun kept => ?_, fun le => ?_, fun le => ?_⟩
    · exact bound.value_lt written (of_decide_eq_true ((keeps rfl).mp kept))
    · exact written.value_lt bound (of_decide_eq_true ((keeps rfl).mp kept))
    · exact (keeps rfl).mpr (decide_eq_true (bound.position_mono written le))
    · exact (keeps rfl).mpr (decide_eq_true (written.position_mono bound le))
  · intro low high b b' column one_line one_line' bound bound' le r
    have places : bound.number.position ≤ bound'.number.position := bound.position_mono bound' le
    have lower {op : Operator} (numeric : op.isNumeric)
        (passes : ∀ x, op.orders (.finite x) (.finite bound'.number) →
          op.orders (.finite x) (.finite bound.number)) :
        Keeps records (high.expression op b') r → Keeps records (low.expression op b) r :=
      keeps_of_keeps numeric column one_line one_line' bound bound' passes
    have upper {op : Operator} (numeric : op.isNumeric)
        (passes : ∀ x, op.orders (.finite x) (.finite bound.number) →
          op.orders (.finite x) (.finite bound'.number)) :
        Keeps records (low.expression op b) r → Keeps records (high.expression op b') r :=
      keeps_of_keeps numeric column.symm one_line' one_line bound' bound passes
    refine ⟨lower rfl fun x h => ?_, lower rfl fun x h => ?_, upper rfl fun x h => ?_,
      upper rfl fun x h => ?_⟩
    · exact decide_eq_true (Int.le_trans places (of_decide_eq_true h))
    · exact decide_eq_true (Int.lt_of_le_of_lt places (of_decide_eq_true h))
    · exact decide_eq_true (Int.le_trans (of_decide_eq_true h) places)
    · exact decide_eq_true (Int.lt_of_lt_of_le (of_decide_eq_true h) places)

/-! ### two numbers that are read as one -/

/-- digits and nothing else -/
def wholeNumber (ds : List Char) (digits : ds.all Char.isDigit) (some_digits : ds ≠ []) : Spelling where
  sign := .none
  whole := ds
  part := none
  exponent := none
  whole_digits := List.all_eq_true.mp digits
  part_digits := nofun
  some_digits := List.append_ne_nil_of_left_ne_nil some_digits _

theorem value_wholeNumber {ds : List Char} (digits : ds.all Char.isDigit) (some_digits : ds ≠ []) :
    (wholeNumber ds digits some_digits).value = Nat.ofDigitChars 10 ds 0 := by
  show (Nat.ofDigitChars 10 (ds ++ []) 0 : ℚ) * 10 ^ ((0 : Int) - (0 : Nat)) = _
  rw [List.append_nil]
  simp

/-- `2 ^ 53` -/
def close : Finite64 := ⟨false, 1076 * Nat.pow 2 52, by decide⟩

def closeCell : NumberText "9007199254740993" where
  spelling := wholeNumber "9007199254740993".toList (by decide) (by decide)
  number := close
  text := by decide
  read := by decide +kernel
  followed := Or.inl nofun

def closeBound : NumberText "9007199254740992" where
  spelling := wholeNumber "9007199254740992".toList (by decide) (by decide)
  number := close
  text := by decide
  read := by decide +kernel
  followed := Or.inl nofun

/-- how `n >= '9007199254740992'` is written -/
def quotedBound : Comparison where
  column := "n"
  before := [' ']
  after := [' ']
  quote := some '\x27'
  column_ne := by decide
  column_word := List.all_eq_true.mp rfl
  before_blank := Text.isBlank_of_mem_space
  after_blank := Text.isBlank_of_mem_space
  quote_isQuote := by
    rintro _ ⟨⟩
    rfl

theorem keeps_by_exact_order_close :
    let r : Record := ⟨[("n", "9007199254740993")]⟩
    quotedBound.expression .greaterOrEqual "9007199254740992" = "n >= '9007199254740992'" ∧
      closeBound.value < closeCell.value ∧ Keeps [r] "n >= '9007199254740992'" r ∧
      ¬ Keeps [r] (quotedBound.expression .lessThan "9007199254740992") r := by
  intro r
  have text : quotedBound.expression .greaterOrEqual "9007199254740992" = "n >= '9007199254740992'" := by
    decide
  have lt : closeBound.value < closeCell.value := by
    rw [closeBound, closeCell, NumberText.value, NumberText.value, value_wholeNumber, value_wholeNumber]
    exact Nat.cast_lt.mpr (by decide)
  obtain ⟨-, laws⟩ := (keeps_by_exact_order [r]).2.1 quotedBound _ (by decide) closeBound
  obtain ⟨-, less, greater, -⟩ := laws r List.mem_cons_self _ rfl closeCell
  exact ⟨text, lt, text ▸ greater lt.le, fun kept => absurd lt (less kept).not_gt⟩

/-! ### an exponent that is not followed to its end -/

/-- how `z >= 1` is written -/
def bareBound : Comparison where
  column := "z"
  before := [' ']
  after := [' ']
  quote := none
  column_ne := by decide
  column_word := List.all_eq_true.mp rfl
  before_blank := Text.isBlank_of_mem_space
  after_blank := Text.isBlank_of_mem_space
  quote_isQuote := nofun

def one : NumberText "1" where
  spelling := wholeNumber ['1'] rfl (by decide)
  number := ⟨false, 1023 * Nat.pow 2 52, by decide⟩
  text := by decide
  read := by decide +kernel
  followed := Or.inl nofun

theorem value_one : one.value = 1 := (value_wholeNumber rfl (by decide)).trans Nat.cast_one

section
variable {zeros : List Char} (h : ∀ c ∈ zeros, c = '0')

/-- `0.`, some zeros, then `1e655360` -/
def lateOne : Spelling where
  sign := .none
  whole := ['0']
  part := some (zeros ++ ['1'])
  exponent := some ⟨'e', .none, "655360".toList, Or.inl rfl, by decide, List.all_eq_true.mp rfl⟩
  whole_digits := List.all_eq_true.mp rfl
  part_digits := List.forall_mem_append.mpr ⟨fun c hc => h c hc ▸ rfl, List.all_eq_true.mp rfl⟩
  some_digits := List.cons_ne_nil _ _

variable (length : zeros.length = 655359)
include h length

theorem length_part_lateOne : ((lateOne h).part.getD []).length = 655360 := by
  show (zeros ++ ['1']).length = _
  rw [List.length_append, length]
  rfl

theorem value_lateOne : (lateOne h).value = 1 := by
  have coefficient : Nat.ofDigitChars 10 (lateOne h).digits 0 = 1 := by
    have digits : (lateOne h).digits = ('0' :: zeros) ++ ['1'] := rfl
    rw [digits, Nat.ofDigitChars_append, ofDigitChars_zeros (List.forall_mem_cons.mpr ⟨rfl, h⟩)]
    rfl
  have place : (lateOne h).exact.exponent = 0 := by
    show (655360 : Int) - ((lateOne h).part.getD []).length = 0
    rw [length_part_lateOne h length]
    rfl
  have value : (lateOne h).value
      = (Nat.ofDigitChars 10 (lateOne h).digits 0 : ℚ) * 10 ^ (lateOne h).exact.exponent := rfl
  rw [value, coefficient, place]
  simp

/-- the exponent is taken for `65536` -/
theorem rank_lateOne : (lateOne h).numeral.rank = 0 := by
  have last : (lateOne h).numeral.digits.dropWhile (· == '0') = ['1'] := by
    have leading : ∀ c ∈ '0' :: zeros, c == '0' :=
      List.forall_mem_cons.mpr ⟨rfl, fun c hc => beq_iff_eq.mpr (h c hc)⟩
    refine Text.dropWhile_run leading ?_
    rintro _ ⟨⟩
    decide
  have place : (lateOne h).numeral.exponent = 65536 - ((lateOne h).part.getD []).length := rfl
  unfold Numeral.rank
  rw [last, place, length_part_lateOne h length]
  rfl

theorem not_kept_lateOne :
    let cell := String.ofList (lateOne h).text
    let r : Record := ⟨[("z", cell)]⟩
    (lateOne h).text = Text.trim cell.toList ∧ readNumber? cell = some .zero ∧
      selectRecords [r] "z >= 1" = .ok [] := by
  intro cell r
  have text : (lateOne h).text = Text.trim cell.toList := by
    rw [String.toList_ofList, Spelling.trim_text]
  have read : readNumber? cell = some .zero := by
    rw [readNumber?, ← text, (lateOne h).read?_text]
    exact Numeral.toFinite64?_eq rfl (rank_lateOne h length)
  obtain ⟨v, condition, number⟩ := bareBound.read_expression .greaterOrEqual (by decide) one.read
  have expression : bareBound.expression .greaterOrEqual "1" = "z >= 1" := by decide
  have present : r.cell? bareBound.column = some cell := rfl
  have dropped : ¬ (Condition.mk bareBound.column .greaterOrEqual v).holds r := by
    rw [Condition.holds_of_cell present, Condition.holdsOfCell_eq_orders rfl read number]
    decide
  have selected := selectRecords_of_read condition [r]
  rw [expression, List.filter_cons_of_neg dropped] at selected
  exact ⟨text, read, selected⟩

theorem dropped_lateOne :
    ∃ w : Spelling, w.text = "0.".toList ++ zeros ++ "1e655360".toList ∧
      let cell := String.ofList w.text
      w.text = Text.trim cell.toList ∧ readNumber? cell = some .zero ∧
      w.value = 1 ∧ one.value = 1 ∧ selectRecords [⟨[("z", cell)]⟩] "z >= 1" = .ok [] := by
  obtain ⟨text, read, dropped⟩ := not_kept_lateOne h length
  have shape : (lateOne h).text = "0.".toList ++ zeros ++ "1e655360".toList := by
    show '0' :: '.' :: ((zeros ++ ['1']) ++ "e655360".toList) = _
    rw [List.append_assoc]
    rfl
  exact ⟨lateOne h, shape, text, read, value_lateOne h length, value_one, dropped⟩

end

/-- a cell and a bound that are both `1`, and the cell is dropped from those that are at least `1` -/
theorem late_exponent_dropped :
    ∃ w : Spelling, w.text = "0.".toList ++ List.replicate 655359 '0' ++ "1e655360".toList ∧
      let cell := String.ofList w.text
      w.text = Text.trim cell.toList ∧ readNumber? cell = some .zero ∧
      w.value = 1 ∧ one.value = 1 ∧ selectRecords [⟨[("z", cell)]⟩] "z >= 1" = .ok [] :=
  dropped_lateOne (fun _ => List.eq_of_mem_replicate) List.length_replicate

end Comparison

end TableChart
