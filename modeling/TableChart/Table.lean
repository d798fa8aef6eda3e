import Std.Data.HashMap

/-!
# Tables

A table has headers and records.  A record pairs column names with cells; where a name is repeated
the last pair counts.

* `Record.cell?`    the cell under a column;
* `Record.index`    the same cells arranged for many look-ups;
* `Record.ofRow`    a row laid under its headers: cells without a header are dropped, headers
                    without a cell get the empty one.
-/

namespace TableChart

/-! ## records -/

structure Record where
  cells : List (String × String)
deriving DecidableEq

/-- the value of the last pair with this key -/
def lastValue? (key : String) : List (String × String) → Option String
  | [] => none
  | (k, v) :: rest =>
    match lastValue? key rest with
    | some w => some w
    | none => if k = key then some v else none

/-- the cells of a row under the headers, position by position -/
def underHeaders : List String → List String → List (String × String)
  | [], _ => []
  | h :: hs, [] => (h, "") :: underHeaders hs []
  | h :: hs, c :: cs => (h, c) :: underHeaders hs cs

namespace Record

def cell? (r : Record) (column : String) : Option String := lastValue? column r.cells

/-- an absent cell counts as empty -/
def cellOrEmpty (r : Record) (column : String) : String := (r.cell? column).getD ""

def index (r : Record) : Std.HashMap String String :=
  r.cells.foldl (fun m (k, v) => m.insert k v) ∅

private theorem getElem?_foldl_insert (cells : List (String × String))
    (m : Std.HashMap String String) (column : String) :
    (cells.foldl (fun m (k, v) => m.insert k v) m)[column]?
      = (lastValue? column cells).or m[column]? := by
  induction cells generalizing m with
  | nil => rfl
  | cons p rest ih =>
    rw [List.foldl_cons, ih, Std.HashMap.getElem?_insert, lastValue?]
    cases lastValue? column rest with
    | some w => rfl
    | none => by_cases e : p.1 = column <;> simp [e]

@[simp] theorem getElem?_index (r : Record) (column : String) :
    r.index[column]? = r.cell? column := by
  rw [index, getElem?_foldl_insert, cell?]
  simp

@[simp] theorem getD_index (r : Record) (column : String) :
    r.index.getD column "" = r.cellOrEmpty column := by
  rw [Std.HashMap.getD_eq_getD_getElem?, getElem?_index, cellOrEmpty]

def ofRow (headers row : List String) : Record := ⟨underHeaders headers row⟩

end Record

/-! ## tables -/

structure Table where
  headers : List String := []
  records : List Record := []
deriving DecidableEq

/-- headers over the records of the rows -/
def Table.ofRows (headers : List String) (rows : List (List String)) : Table :=
  ⟨headers, rows.map (Record.ofRow headers)⟩

end TableChart
