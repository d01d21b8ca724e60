import ScrollExport.Json.Printer
import ScrollExport.Record

/-!
# Tables

The rows gathered from all pages, and the columns: every field name of the rows, in the order in
which it first came.
-/

namespace ScrollExport

/-- A field that a record lacks differs from one that is null. -/
inductive Cell where
  | absent
  | value (v : Json)

namespace Cell

/-- Absent and null cells are empty, text stands for itself, all else is compact JSON. -/
def toText : Cell → String
  | .absent | .value .null => ""
  | .value (.str s) => s
  | .value v => v.compact

end Cell

structure Table where
  columns : List String
  rows : List Record

namespace Table

def empty : Table :=
  ⟨[], []⟩

/-- Append the names that are not yet columns. -/
def addColumns (columns : List String) (names : List String) : List String :=
  names.foldl (fun cs name => if name ∈ cs then cs else cs ++ [name]) columns

def push (t : Table) (r : Record) : Table :=
  ⟨addColumns t.columns r.keys, t.rows ++ [r]⟩

def extend (t : Table) (rs : List Record) : Table :=
  rs.foldl push t

def size (t : Table) : Nat :=
  t.rows.length

def isEmpty (t : Table) : Bool :=
  t.rows.isEmpty

@[simp] theorem rows_empty : empty.rows = [] := rfl

@[simp] theorem rows_push (t : Table) (r : Record) : (t.push r).rows = t.rows ++ [r] := rfl

@[simp] theorem rows_extend (t : Table) (rs : List Record) :
    (t.extend rs).rows = t.rows ++ rs := by
  induction rs generalizing t with
  | nil => simp [extend]
  | cons r rs ih => simpa [extend] using ih (t.push r)

@[simp] theorem extend_nil (t : Table) : t.extend [] = t := rfl

@[simp] theorem size_empty : empty.size = 0 := rfl

@[simp] theorem size_extend (t : Table) (rs : List Record) :
    (t.extend rs).size = t.size + rs.length := by
  simp [size]

theorem extend_append (t : Table) (rs rs' : List Record) :
    t.extend (rs ++ rs') = (t.extend rs).extend rs' := by
  simp [extend]

/-! ### Cells -/

def cell (r : Record) (column : String) : Cell :=
  match r.field? column with
  | some v => .value v
  | none => .absent

/-- The cells of a row, one for each column. -/
def rowCells (t : Table) (r : Record) : List Cell :=
  t.columns.map (cell r)

/-! ### Text grid -/

/-- The heading of the column of identifiers. -/
def idHeading : String := "_id"

def header (t : Table) : List String :=
  idHeading :: t.columns

def rowTexts (t : Table) (r : Record) : List String :=
  r.id :: (t.rowCells r).map Cell.toText

/-- The texts of all rows, without the header. -/
def textGrid (t : Table) : List (List String) :=
  t.rows.map t.rowTexts

end Table

end ScrollExport
