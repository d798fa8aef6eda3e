import TableChart.Proofs.Decimal.Value
import TableChart.Proofs.Filter.Consistency
import TableChart.Proofs.Filter.RoundTrip
import TableChart.Proofs.Filter.Selection

/-!
# Comparisons with a number

* `Comparison`            an expression but for its operator and its value: a column, blanks, quotes;
* `NumberToken`           a token whose value has a number: a numeral between blanks, or quotes
                          around one;
* `Comparison.read_expression`   the expression is read with the operator and that number;
* `Comparison.keeps_iff`  a record is kept exactly if its cell is read as a number, and the two numbers
                          stand as the operator says.
-/

namespace TableChart

/-! ## tokens -/

/-- a token with blanks around a value that has a number, and does not begin with `=` -/
inductive NumberToken (y : Finite64) : List Char → Prop
  | intro {front value back : List Char} (front_blank : ∀ c ∈ front, Text.isBlank c)
    (back_blank : ∀ c ∈ back, Text.isBlank c) (value_ne : value ≠ [])
    (first : ∀ c ∈ value.head?, ¬ Text.isBlank c ∧ c ≠ '=')
    (last : ∀ c ∈ value.getLast?, ¬ Text.isBlank c) (one_line : '\n' ∉ value)
    (number : (Value.ofToken value).toNumber? = some (.finite y)) :
    NumberToken y (front ++ (value ++ back))

theorem not_isBlank_of_isQuote {q : Char} (h : Value.isQuote q) :
    ¬ Text.isBlank q ∧ q ≠ '=' ∧ q ≠ '\n' := by
  rcases Bool.or_eq_true_iff.mp h with h | h <;> rw [beq_iff_eq.mp h] <;> decide

section
variable {b : String} {y : Finite64} (one_line : '\n' ∉ b.toList) (h : readNumber? b = some y)
include one_line h

theorem numberToken_bare : NumberToken y b.toList := by
  obtain ⟨w, text⟩ := exists_spelling_of_readNumber? h
  have inNumber : ∀ c ∈ Text.trim b.toList, InNumber c ∧ c ≠ '=' := fun c hc =>
    w.inNumber_text (text ▸ hc)
  have not_blank : ∀ c ∈ Text.trim b.toList, ¬ Text.isBlank c := fun c hc =>
    not_isBlank_of_inNumber (inNumber c hc).1
  have trimmed := Text.trim_eq_self_of_forall not_blank
  have number : Value.ofToken (Text.trim b.toList) = .number (.finite y) := by
    have read : readNumber? (String.ofList (Text.trim b.toList)) = some y := by
      rw [← h, readNumber?, readNumber?, String.toList_ofList, trimmed]
    rw [Value.ofToken, trimmed, Value.quoted?_of_inNumber fun c hc => (inNumber c hc).1, read]
  obtain ⟨front, back, joined, before, behind⟩ := Text.exists_trim b.toList
  rw [← joined]
  refine .intro before behind (text ▸ w.text_ne) (fun c hc => ?_) (fun c hc => ?_)
    (mt Text.mem_of_mem_trim one_line) (congrArg Value.toNumber? number)
  · exact ⟨not_blank c (List.mem_of_head? hc), (inNumber c (List.mem_of_head? hc)).2⟩
  · exact not_blank c (List.mem_of_getLast? hc)

theorem numberToken_quoted {q : Char} (hq : Value.isQuote q) :
    NumberToken y (q :: (b.toList ++ [q])) := by
  obtain ⟨blank, equals, line⟩ := not_isBlank_of_isQuote hq
  have first : ∀ c ∈ (q :: (b.toList ++ [q])).head?, ¬ Text.isBlank c ∧ c ≠ '=' := by
    rintro _ ⟨⟩
    exact ⟨blank, equals⟩
  have last : ∀ c ∈ (q :: (b.toList ++ [q])).getLast?, ¬ Text.isBlank c := by
    rw [← List.cons_append, List.getLast?_concat]
    rintro _ ⟨⟩
    exact blank
  have lines : '\n' ∉ q :: (b.toList ++ [q]) := by simp [one_line, line.symm]
  have trimmed := Text.trim_eq_self (fun c hc => (first c hc).1) last
  have number : (Value.ofToken (q :: (b.toList ++ [q]))).toNumber? = some (.finite y) := by
    rw [Value.ofToken, trimmed, Value.quoted?_enclosed hq]
    show (readNumber? (String.ofList b.toList)).map Binary64.finite = _
    rw [String.ofList_toList, h]
    rfl
  have token : NumberToken y ([] ++ (q :: (b.toList ++ [q]) ++ [])) :=
    .intro (List.forall_mem_nil _) (List.forall_mem_nil _) (List.cons_ne_nil _ _) first last lines number
  rw [List.append_nil] at token
  exact token

end

/-! ## expressions -/

/-- a column, blanks on both sides of an operator, and quotes if the value has some -/
structure Comparison where
  column : String
  before : List Char
  after : List Char
  quote : Option Char
  column_ne : column.toList ≠ []
  column_word : ∀ c ∈ column.toList, isWord c
  before_blank : ∀ c ∈ before, Text.isBlank c
  after_blank : ∀ c ∈ after, Text.isBlank c
  quote_isQuote : ∀ q ∈ quote, Value.isQuote q

namespace Comparison
variable (c : Comparison)

def token (b : List Char) : List Char := c.quote.elim b fun q => q :: (b ++ [q])

def expression (op : Operator) (b : String) : String :=
  String.ofList (c.column.toList ++ (c.before ++ (op.symbol ++ (c.after ++ c.token b.toList))))

theorem numberToken {b : String} {y : Finite64} (one_line : '\n' ∉ b.toList)
    (h : readNumber? b = some y) : NumberToken y (c.token b.toList) := by
  have quotes := c.quote_isQuote
  unfold token
  cases hq : c.quote with
  | none => exact numberToken_bare one_line h
  | some q => exact numberToken_quoted one_line h (quotes q hq)

theorem read_expression (op : Operator) {b : String} {y : Finite64} (one_line : '\n' ∉ b.toList)
    (h : readNumber? b = some y) :
    ∃ v, Condition.read (c.expression op b) = .ok ⟨c.column, op, v⟩ ∧
      v.toNumber? = some (.finite y) := by
  have token := c.numberToken one_line h
  unfold expression
  generalize c.token b.toList = t at token
  obtain @⟨front, value, back, front_blank, back_blank, value_ne, first, last, one_line, number⟩ := token
  let text := c.column.toList ++ (c.before ++ (op.symbol ++ ((c.after ++ front) ++ value)))
  let s : Splitting op text :=
    { column := c.column.toList
      before := c.before
      after := c.after ++ front
      value := value
      joined := rfl
      column_ne := c.column_ne
      column_word := c.column_word
      before_blank := c.before_blank
      after_blank := List.forall_mem_append.mpr ⟨c.after_blank, front_blank⟩
      value_ne := value_ne
      value_first := fun ch hch => (first ch hch).1
      one_line := one_line }
  have joined : c.column.toList ++ (c.before ++ (op.symbol ++ (c.after ++ (front ++ (value ++ back)))))
      = text ++ back := by
    simp only [text, List.append_assoc]
  have ends : Text.trim (String.ofList (text ++ back)).toList = text := by
    rw [String.toList_ofList]
    exact s.trim_append last back_blank
  have stop : ∀ ch ∈ (s.after ++ s.value).head?, ch ≠ '=' :=
    Text.forall_head?_append (fun ch hch equals => absurd (s.after_blank ch hch) (equals ▸ by decide))
      fun ch hch => (first ch hch).2
  have read := Condition.read_of_splitting ends s fun equals => stop '=' equals rfl
  have column : String.ofList s.column = c.column := String.ofList_toList
  rw [Splitting.condition, column] at read
  exact ⟨Value.ofToken value, joined ▸ read, number⟩

/-! ## selection -/

/-- applied to these records, the expression keeps this one -/
def Keeps (records : List Record) (expression : String) (r : Record) : Prop :=
  ∃ kept, selectRecords records expression = .ok kept ∧ r ∈ kept

theorem keeps_iff {op : Operator} (numeric : op.isNumeric) {b : String} {y : Finite64}
    (one_line : '\n' ∉ b.toList) (h : readNumber? b = some y) {records : List Record} {r : Record} :
    Keeps records (c.expression op b) r ↔
      r ∈ records ∧ ∃ cell x, r.cell? c.column = some cell ∧ readNumber? cell = some x ∧
        op.orders (.finite x) (.finite y) := by
  obtain ⟨v, read, number⟩ := c.read_expression op one_line h
  have selected := selectRecords_of_read read records
  have met : (Condition.mk c.column op v).holds r ↔ _ := Condition.holds_iff numeric number
  constructor
  · rintro ⟨kept, hkept, hr⟩
    rw [selected] at hkept
    cases hkept
    obtain ⟨mem, holds⟩ := List.mem_filter.mp hr
    exact ⟨mem, met.mp holds⟩
  · rintro ⟨mem, holds⟩
    exact ⟨_, selected, List.mem_filter.mpr ⟨mem, met.mpr holds⟩⟩

end Comparison

end TableChart
