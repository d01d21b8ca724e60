import ScrollExport.Json.Reader
import ScrollExport.Record

/-!
# Search responses

What a search or scroll answers: the scroll id, the number of hits and the hits. Members with other
names are passed over, whatever they hold. An object may also be written as the array of its parts.
-/

namespace ScrollExport.Search

open Json (Tree)

structure Hit where
  id : String
  source : Json

structure Response where
  scrollId : Option String
  total : Option Nat
  hits : List Hit

namespace Response

/-! ### Members -/

/-- The value of a member that may occur at most once; refused if it occurs again. -/
def member? (members : List (Option String × Tree)) (key : String) : Option (Option Tree) :=
  match members.filter fun m => m.1 = some key with
  | [] => some none
  | [m] => some (some m.2)
  | _ => none

/-- Whether all keys are text. -/
def hasTextKeys (members : List (Option String × Tree)) : Bool :=
  members.all fun m => m.1.isSome

/-- A member that must occur exactly once. -/
def required? (members : List (Option String × Tree)) (key : String) : Option Tree :=
  (member? members key).bind id

/-! ### Leaves -/

def text? : Tree → Option String
  | .text s => s
  | _ => none

/-- Text or null. -/
def optionText? : Tree → Option (Option String)
  | .null => some none
  | t => (text? t).map some

/-- A whole number that fits an unsigned word. -/
def count? : Tree → Option Nat
  | .number n =>
    match n.value? with
    | some (.int i) => if i < 0 then none else some i.toNat
    | _ => none
  | _ => none

/-- The nesting that is left below as many levels. -/
def roomBelow (levels : Nat) : Option Nat :=
  some (Json.nestingLimit - levels)

/-! ### Totals -/

/-- The count of hits: an object with a value and perhaps a relation, or a number. -/
def totalValue? : Tree → Option Nat
  | .obj members => do
    let relation ← member? members "relation"
    let _ ← match relation with
      | some t => optionText? t
      | none => some none
    count? (← required? members "value")
  | t => count? t

/-- A total may be missing or null; otherwise all of it is read, and not only its value. -/
def total? : Option Tree → Option (Option Nat)
  | none | some .null => some none
  | some t => (Json.ofTree? (roomBelow 2) t).bind fun _ => (totalValue? t).map some

/-! ### Hits -/

/-- A missing source is null. -/
def source? : Option Tree → Option Json
  | none => some .null
  | some t => Json.ofTree? (roomBelow 4) t

def hit? : Tree → Option Hit
  | .obj members => do
    if !hasTextKeys members then none
    let id ← text? (← required? members "_id")
    let source ← source? (← member? members "_source")
    some ⟨id, source⟩
  | .arr [id] => do some ⟨← text? id, .null⟩
  | .arr [id, source] => do some ⟨← text? id, ← source? (some source)⟩
  | _ => none

def hitList? : Tree → Option (List Hit)
  | .arr items => items.mapM hit?
  | _ => none

/-- The total and the hits. -/
def hits? : Tree → Option (Option Nat × List Hit)
  | .obj members => do
    if !hasTextKeys members then none
    let total ← total? (← member? members "total")
    let hits ← hitList? (← required? members "hits")
    some (total, hits)
  | .arr [total, hits] => do some (← total? (some total), ← hitList? hits)
  | _ => none

/-! ### Responses -/

def ofTree? : Tree → Option Response
  | .obj members => do
    if !hasTextKeys members then none
    let scrollId ← match ← member? members "_scroll_id" with
      | some t => optionText? t
      | none => some none
    let (total, hits) ← hits? (← required? members "hits")
    some ⟨scrollId, total, hits⟩
  | .arr [scrollId, hits] => do
    let scrollId ← optionText? scrollId
    let (total, hits) ← hits? hits
    some ⟨scrollId, total, hits⟩
  | _ => none

/-- Read the body of a response. -/
def read? (body : String) : Option Response :=
  (Tree.ofChars? body.toList).bind ofTree?

/-- The page of a response, if it carries a scroll id. -/
def page? (r : Response) : Option Page :=
  r.scrollId.map fun cursor =>
    ⟨cursor, r.total, r.hits.map fun h => Record.ofSource h.id h.source⟩

end Response

end ScrollExport.Search
