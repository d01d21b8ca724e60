import ScrollExport.Json.Tree

/-!
# Reading JSON values

A tree is a value if its numbers are in range, its strings are text and its nesting stays within a
limit. A key that is repeated keeps its first place and takes its last value.
-/

namespace ScrollExport.Json

/-- The deepest nesting of arrays and objects that is read. -/
def nestingLimit : Nat := 127

/-- What is left of a nesting limit inside one more array or object. -/
def deeper? : Option Nat → Option (Option Nat)
  | none => some none
  | some 0 => none
  | some (n + 1) => some (some n)

mutual

/-- The value of a tree that nests at most `room` deep, without a limit if there is none. -/
def ofTree? (room : Option Nat) : Tree → Option Json
  | .null => some .null
  | .bool b => some (.bool b)
  | .number n => n.value?
  | .text s => s.map .str
  | .arr items => (deeper? room).bind fun room => (ofItems? room items).map .arr
  | .obj members =>
    (deeper? room).bind fun room => (ofMembers? room members).map (.obj ∘ Keyed.ofList)

def ofItems? (room : Option Nat) : List Tree → Option (List Json)
  | [] => some []
  | t :: ts => (ofTree? room t).bind fun v => (ofItems? room ts).map (v :: ·)

def ofMembers? (room : Option Nat) :
    List (Option String × Tree) → Option (List (String × Json))
  | [] => some []
  | (key, t) :: ts =>
    key.bind fun key => (ofTree? room t).bind fun v => (ofMembers? room ts).map ((key, v) :: ·)

end

/-- Read a text within the nesting limit. -/
def read? (s : String) : Option Json :=
  (Tree.ofChars? s.toList).bind (ofTree? (some nestingLimit))

/-- Read a text of any depth. -/
def readDeep? (s : String) : Option Json :=
  (Tree.ofChars? s.toList).bind (ofTree? none)

end ScrollExport.Json
