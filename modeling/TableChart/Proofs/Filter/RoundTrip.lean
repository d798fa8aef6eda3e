import TableChart.Proofs.Decimal.ReadBack
import TableChart.Proofs.Filter.Grammar

/-!
# Conditions are read back

* `Condition.Printable`      a column that is a name, and a value that is a text on one line or a
                             finite number;
* `Value.ofToken_written`    a written value means itself, but for the sign of a zero;
* `Condition.read_render`    a rendered condition is read as itself, but for the sign of a zero;
* `Condition.printable_of_read`   every condition that is read is printable.

Nothing in a text is escaped, so it may hold quotes and whole expressions of its own.  They do not
count: the splitting is settled by the first symbol, and the quotes of a value are its two ends.
-/

namespace TableChart

/-! ## values -/

namespace Value

/-- the value as it stands in an expression -/
def written : Value → List Char
  | text s => '"' :: (s.toList ++ ['"'])
  | number x => x.canonical.toList

def withoutZeroSign : Value → Value
  | number (.finite x) => number (.finite x.withoutZeroSign)
  | v => v

/-- texts are equal letter by letter, numbers by their position: both zeros are equal, and what is no
number is not even equal to itself -/
def equals : Value → Value → Bool
  | text s, text t => s == t
  | number x, number y => x.le y && y.le x
  | _, _ => false

inductive Printable : Value → Prop
  | text {s : String} (h : '\n' ∉ s.toList) : Printable (text s)
  | number (x : Finite64) : Printable (number (.finite x))

theorem written_number (x : Finite64) : (number (.finite x)).written = x.canonical :=
  String.toList_ofList

theorem equals_withoutZeroSign {v : Value} (h : v.Printable) : v.withoutZeroSign.equals v := by
  cases h with
  | text h => exact beq_self_eq_true _
  | number x =>
    simp [withoutZeroSign, equals, Binary64.le, Binary64.position, x.position_withoutZeroSign]

theorem toText_withoutZeroSign (v : Value) : v.withoutZeroSign.toText = v.toText := by
  match v with
  | text s | number (.infinite _) | number .nan => rfl
  | number (.finite x) => exact congrArg String.ofList x.canonical_withoutZeroSign

/-! ### the ends of a written value -/

theorem written_ne {v : Value} (h : v.Printable) : v.written ≠ [] := by
  cases h with
  | text h => exact List.cons_ne_nil _ _
  | number x => exact written_number x ▸ x.canonical_ne

theorem not_mem_written {v : Value} (h : v.Printable) : '\n' ∉ v.written := by
  cases h with
  | text h => simp [written, h]
  | number x =>
    rw [written_number]
    exact fun hx => not_isBlank_of_inNumber (x.inNumber_canonical _ hx) rfl

theorem head?_written {v : Value} (h : v.Printable) : ∀ c ∈ v.written.head?, ¬ Text.isBlank c := by
  cases h with
  | text h =>
    rintro _ ⟨⟩
    decide
  | number x =>
    rw [written_number]
    exact fun c hc => not_isBlank_of_inNumber (x.inNumber_canonical c (List.mem_of_head? hc))

theorem getLast?_written {v : Value} (h : v.Printable) :
    ∀ c ∈ v.written.getLast?, ¬ Text.isBlank c := by
  cases h with
  | text h =>
    rw [written, ← List.cons_append, List.getLast?_concat]
    rintro _ ⟨⟩
    decide
  | number x =>
    rw [written_number]
    exact fun c hc => not_isBlank_of_inNumber (x.inNumber_canonical c (List.mem_of_getLast? hc))

/-! ### meaning of a token -/

theorem quoted?_enclosed {q : Char} (h : isQuote q) (cs : List Char) :
    quoted? (q :: (cs ++ [q])) = some cs := by
  rw [quoted?, ← List.cons_append, List.getLast?_concat, List.dropLast_concat, if_pos ⟨h, rfl⟩]

theorem quoted?_of_inNumber {cs : List Char} (h : ∀ c ∈ cs, InNumber c) : quoted? cs = none := by
  cases cs with
  | nil => rfl
  | cons q rest =>
    have lo := (h q List.mem_cons_self).1
    have quote : ¬ isQuote q := by
      have ends : '"'.toNat < '+'.toNat ∧ '\x27'.toNat < '+'.toNat := by decide
      rw [isQuote, Bool.or_eq_true, beq_iff_eq, beq_iff_eq]
      rintro (rfl | rfl) <;> omega
    rw [quoted?, if_neg fun both => quote both.1]

theorem ofToken_written {v : Value} (h : v.Printable) : ofToken v.written = v.withoutZeroSign := by
  rw [ofToken, Text.trim_eq_self (head?_written h) (getLast?_written h)]
  cases h with
  | text h =>
    rw [written, quoted?_enclosed rfl]
    exact congrArg text String.ofList_toList
  | number x =>
    rw [written_number, quoted?_of_inNumber x.inNumber_canonical, readNumber?_canonical]
    rfl

theorem mem_of_quoted? {token inner : List Char} {c : Char} (h : quoted? token = some inner)
    (hc : c ∈ inner) : c ∈ token := by
  cases token with
  | nil => exact absurd h nofun
  | cons q cs =>
    rw [quoted?, Option.ite_none_right_eq_some] at h
    rw [← Option.some.inj h.2] at hc
    exact List.mem_cons_of_mem _ ((List.dropLast_sublist cs).subset hc)

theorem printable_ofToken {token : List Char} (h : '\n' ∉ token) : (ofToken token).Printable := by
  have one_line : '\n' ∉ Text.trim token := mt Text.mem_of_mem_trim h
  unfold ofToken
  dsimp only
  split
  · rename_i inner quoted
    refine .text ?_
    rw [String.toList_ofList]
    exact mt (mem_of_quoted? quoted) one_line
  · split
    · exact .number _
    · refine .text ?_
      rw [String.toList_ofList]
      exact one_line

end Value

/-! ## conditions -/

namespace Condition

structure Printable (c : Condition) : Prop where
  column_ne : c.column.toList ≠ []
  column_word : ∀ ch ∈ c.column.toList, isWord ch
  value : c.value.Printable

def withoutZeroSign (c : Condition) : Condition := { c with value := c.value.withoutZeroSign }

theorem toList_render (c : Condition) : c.render.toList =
    c.column.toList ++ ([' '] ++ (c.operator.symbol ++ ([' '] ++ c.value.written))) := by
  unfold render Value.written
  cases c.value <;> simp

section
variable {c : Condition}

def Printable.splitting (h : c.Printable) : Splitting c.operator c.render.toList where
  column := c.column.toList
  before := [' ']
  after := [' ']
  value := c.value.written
  joined := c.toList_render.symm
  column_ne := h.column_ne
  column_word := h.column_word
  before_blank := Text.isBlank_of_mem_space
  after_blank := Text.isBlank_of_mem_space
  value_ne := Value.written_ne h.value
  value_first := Value.head?_written h.value
  one_line := Value.not_mem_written h.value

theorem Printable.trim_render (h : c.Printable) : Text.trim c.render.toList = c.render.toList := by
  have trimmed : Text.trim (c.render.toList ++ []) = _ :=
    h.splitting.trim_append (Value.getLast?_written h.value) (List.forall_mem_nil _)
  rw [List.append_nil] at trimmed
  exact trimmed

theorem Printable.condition_splitting (h : c.Printable) :
    h.splitting.condition = c.withoutZeroSign := by
  have column : String.ofList h.splitting.column = c.column := String.ofList_toList
  rw [Splitting.condition, column]
  exact congrArg (Condition.mk c.column c.operator) (Value.ofToken_written h.value)

theorem read_render (h : c.Printable) : read c.render = .ok c.withoutZeroSign :=
  h.condition_splitting ▸ read_of_splitting h.trim_render h.splitting nofun

theorem printable_of_read {e : String} (h : read e = .ok c) : c.Printable := by
  obtain ⟨s, hs, -⟩ := read_eq_ok_iff.mp h
  have value : (Value.ofToken s.value).Printable := Value.printable_ofToken s.one_line
  rw [← hs, Splitting.condition]
  refine ⟨?_, ?_, value⟩
  · exact fun h => s.column_ne (String.toList_ofList.symm.trans h)
  · intro ch hch
    rw [String.toList_ofList] at hch
    exact s.column_word ch hch

end

/-! ### meaning -/

theorem orders_withoutZeroSign (op : Operator) (x : Binary64) (y : Finite64) :
    op.orders x (.finite y.withoutZeroSign) = op.orders x (.finite y) := by
  have place : (Binary64.finite y.withoutZeroSign).position = (Binary64.finite y).position :=
    congrArg some y.position_withoutZeroSign
  cases op <;> simp only [Operator.orders, Binary64.lt, Binary64.le, place]

theorem holdsOfCell_withoutZeroSign (c : Condition) (cell : String) :
    c.withoutZeroSign.holdsOfCell cell = c.holdsOfCell cell := by
  obtain ⟨column, op, value⟩ := c
  have text := value.toText_withoutZeroSign
  match value with
  | .text s | .number (.infinite _) | .number .nan => rfl
  | .number (.finite y) =>
    -- the text decides for `==` and `!=`, the position for the four orderings
    cases op <;> simp only [holdsOfCell, withoutZeroSign, text]
    all_goals
      simp only [Value.withoutZeroSign, Value.toNumber?]
      cases readNumber? cell with
      | none => rfl
      | some x => exact orders_withoutZeroSign _ _ y

theorem holds_withoutZeroSign (c : Condition) (r : Record) : c.withoutZeroSign.holds r = c.holds r := by
  have column : c.withoutZeroSign.column = c.column := rfl
  simp only [holds, column, holdsOfCell_withoutZeroSign]

/-- **Rendering and reading are inverse.**  A printable condition is read back with its column and
its operator, and with a value that differs in nothing but the sign of a zero; the two hold of the
same records.  What reading yields is always printable. -/
theorem read_inverts_render :
    (∀ c : Condition, c.Printable → ∃ c', read c.render = .ok c' ∧
      c'.column = c.column ∧ c'.operator = c.operator ∧
      c'.value = c.value.withoutZeroSign ∧ c'.value.equals c.value ∧
      ∀ r : Record, c'.holds r = c.holds r) ∧
    ∀ (e : String) (c : Condition), read e = .ok c → c.Printable :=
  ⟨fun c h => ⟨c.withoutZeroSign, read_render h, rfl, rfl, rfl, Value.equals_withoutZeroSign h.value,
    c.holds_withoutZeroSign⟩, fun _ _ => printable_of_read⟩

theorem read_inverts_render_of_expression :
    (∃ c', read (Condition.mk "note" .greaterThan (.text "= \"x\" >= 5 ")).render = .ok c' ∧
      c'.operator = .greaterThan ∧ c'.value = .text "= \"x\" >= 5 ") ∧
    ∃ c', read (Condition.mk "_0" .lessThan (.number (.finite ⟨true, 0, by decide⟩))).render = .ok c' ∧
      c'.operator = .lessThan ∧ c'.value = .number (.finite .zero) := by
  constructor
  · have word : "note".toList.all isWord := by decide
    obtain ⟨c', hread, -, hop, hvalue, -⟩ := read_inverts_render.1
      ⟨"note", .greaterThan, .text "= \"x\" >= 5 "⟩
      ⟨by decide, List.all_eq_true.mp word, .text (by decide)⟩
    exact ⟨c', hread, hop, hvalue⟩
  · have word : "_0".toList.all isWord := by decide
    obtain ⟨c', hread, -, hop, hvalue, -⟩ := read_inverts_render.1
      ⟨"_0", .lessThan, .number (.finite ⟨true, 0, by decide⟩)⟩
      ⟨by decide, List.all_eq_true.mp word, .number _⟩
    exact ⟨c', hread, hop, hvalue⟩

end Condition

end TableChart
