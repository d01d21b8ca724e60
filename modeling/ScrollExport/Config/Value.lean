import ScrollExport.Number.Binary64

/-!
# Configuration values

Values with the name of the source they come from, and tables whose entries are sorted by key. A
table that is assigned to a key is merged into what is there, key by key; any other value takes the
place of the old one.
-/

namespace ScrollExport.Config

inductive Scalar where
  | nil
  | bool (b : Bool)
  | int (i : Int)
  | float (x : Binary64)
  | str (s : String)
deriving DecidableEq, Repr

inductive Value where
  | scalar (origin : Option String) (s : Scalar)
  | arr (origin : Option String) (items : List Value)
  | table (origin : Option String) (entries : List (String × Value))
deriving Inhabited

/-! ### Equality -/

namespace Value

mutual

def decEq : (v w : Value) → Decidable (v = w)
  | .scalar o s, .scalar o' s' => decidable_of_iff (o = o' ∧ s = s') (by simp)
  | .arr o vs, .arr o' ws =>
    have : Decidable (vs = ws) := decEqItems vs ws
    decidable_of_iff (o = o' ∧ vs = ws) (by simp)
  | .table o es, .table o' fs =>
    have : Decidable (es = fs) := decEqEntries es fs
    decidable_of_iff (o = o' ∧ es = fs) (by simp)
  | .scalar _ _, .arr _ _ | .scalar _ _, .table _ _ => isFalse nofun
  | .arr _ _, .scalar _ _ | .arr _ _, .table _ _ => isFalse nofun
  | .table _ _, .scalar _ _ | .table _ _, .arr _ _ => isFalse nofun

def decEqItems : (vs ws : List Value) → Decidable (vs = ws)
  | [], [] => isTrue rfl
  | v :: vs, w :: ws =>
    have : Decidable (v = w) := decEq v w
    have : Decidable (vs = ws) := decEqItems vs ws
    decidable_of_iff (v = w ∧ vs = ws) (by simp)
  | [], _ :: _ | _ :: _, [] => isFalse nofun

def decEqEntries : (es fs : List (String × Value)) → Decidable (es = fs)
  | [], [] => isTrue rfl
  | (key, v) :: es, (key', w) :: fs =>
    have : Decidable (v = w) := decEq v w
    have : Decidable (es = fs) := decEqEntries es fs
    decidable_of_iff ((key = key' ∧ v = w) ∧ es = fs) (by simp)
  | [], _ :: _ | _ :: _, [] => isFalse nofun

end

instance : DecidableEq Value :=
  decEq

end Value

/-! ### Sorted entries -/

abbrev Entries := List (String × Value)

namespace Entries

def get? (es : Entries) (key : String) : Option Value :=
  match es with
  | [] => none
  | (k, v) :: rest => if key = k then some v else get? rest key

/-- Give a key its value, in the order of the keys. -/
def put (es : Entries) (key : String) (v : Value) : Entries :=
  match es with
  | [] => [(key, v)]
  | (k, v') :: rest =>
    if key = k then (k, v) :: rest
    else if key < k then (key, v) :: (k, v') :: rest
    else (k, v') :: put rest key v

@[simp] theorem get?_put (es : Entries) (key key' : String) (v : Value) :
    get? (put es key v) key' = if key' = key then some v else get? es key' := by
  induction es with
  | nil => simp [put, get?]
  | cons e rest ih => grind [put, get?]

end Entries

namespace Value

def nil : Value :=
  .scalar none .nil

def emptyTable : Value :=
  .table none []

def origin : Value → Option String
  | .scalar o _ | .arr o _ | .table o _ => o

/-- The entries of a table; any other value has none. -/
def entries : Value → Entries
  | .table _ es => es
  | _ => []

/-- Change the entries; a value that is no table becomes one. -/
def mapEntries (f : Entries → Entries) : Value → Value
  | .table o es => .table o (f es)
  | _ => .table none (f [])

def get? (v : Value) (key : String) : Option Value :=
  v.entries.get? key

/-! ### Assignment -/

mutual

/-- Assign a value to a key of a table. -/
def assign (key : String) (root : Value) : Value → Value
  | .table _ incoming =>
    root.mapEntries fun es =>
      es.put key (assignAll ((es.get? key).getD emptyTable) incoming)
  | v => root.mapEntries fun es => es.put key v

/-- Assign all entries of a table, one after the other. -/
def assignAll (root : Value) : List (String × Value) → Value
  | [] => root
  | (key, v) :: rest => assignAll (assign key root v) rest

end

/-- Where an index points: one below zero counts from the end. -/
def position (i : Int) (length : Nat) : Nat :=
  if 0 ≤ i then i.toNat else (length + i).toNat

def items : Value → List Value
  | .arr _ vs => vs
  | _ => []

/-- Change the item at an index; the array grows if it is too short, and a value that is no array
becomes one. -/
def mapItem (i : Int) (f : Value → Value) (root : Value) : Value :=
  let vs := root.items
  let n := position i vs.length
  let vs := vs ++ List.replicate (n + 1 - vs.length) nil
  let origin := match root with
    | .arr o _ => o
    | _ => none
  .arr origin (vs.modify n f)

end Value

end ScrollExport.Config
