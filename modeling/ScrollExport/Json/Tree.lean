import ScrollExport.Json.Token

/-!
# JSON trees

The shape of a JSON text, before its numbers and strings are given a meaning. A tree is built from
tokens one at a time, with the arrays and objects still open on a stack.
-/

namespace ScrollExport.Json

/-- A string that escapes half of a surrogate pair has no text. -/
inductive Tree where
  | null
  | bool (b : Bool)
  | number (n : Numeral)
  | text (s : Option String)
  | arr (items : List Tree)
  | obj (members : List (Option String × Tree))
deriving Inhabited

namespace Tree

/-! ### Building -/

/-- An array or object whose next value is awaited; what came before, last first. -/
inductive Frame where
  | arr (before : List Tree)
  | obj (before : List (Option String × Tree)) (key : Option String)

/-- What may come next inside the innermost open array or object. -/
inductive Awaiting where
  | value
  | firstItem
  | firstKey
  | key (before : List (Option String × Tree))
  | colon (before : List (Option String × Tree)) (key : Option String)
  | separator (value : Tree)

structure Builder where
  stack : List Frame
  awaiting : Awaiting

namespace Builder

def start : Builder :=
  ⟨[], .value⟩

/-- Take the first token of a value. -/
def openValue? (stack : List Frame) : Token → Option Builder
  | .null => some ⟨stack, .separator .null⟩
  | .bool b => some ⟨stack, .separator (.bool b)⟩
  | .number n => some ⟨stack, .separator (.number n)⟩
  | .text s => some ⟨stack, .separator (.text s)⟩
  | .arrOpen => some ⟨stack, .firstItem⟩
  | .objOpen => some ⟨stack, .firstKey⟩
  | .arrClose | .objClose | .comma | .colon => none

/-- Take the token after a value in an open array or object. -/
def closeValue? (stack : List Frame) (value : Tree) : Frame → Token → Option Builder
  | .arr before, .comma => some ⟨.arr (value :: before) :: stack, .value⟩
  | .arr before, .arrClose => some ⟨stack, .separator (.arr (value :: before).reverse)⟩
  | .obj before key, .comma => some ⟨stack, .key ((key, value) :: before)⟩
  | .obj before key, .objClose =>
    some ⟨stack, .separator (.obj ((key, value) :: before).reverse)⟩
  | _, _ => none

def step? (b : Builder) (t : Token) : Option Builder :=
  match b.awaiting with
  | .value => openValue? b.stack t
  | .firstItem =>
    if t = .arrClose then some ⟨b.stack, .separator (.arr [])⟩
    else openValue? (.arr [] :: b.stack) t
  | .firstKey =>
    match t with
    | .objClose => some ⟨b.stack, .separator (.obj [])⟩
    | .text key => some ⟨b.stack, .colon [] key⟩
    | _ => none
  | .key before =>
    match t with
    | .text key => some ⟨b.stack, .colon before key⟩
    | _ => none
  | .colon before key =>
    if t = .colon then some ⟨.obj before key :: b.stack, .value⟩ else none
  | .separator value =>
    match b.stack with
    | [] => none
    | frame :: stack => closeValue? stack value frame t

/-- The value that was built, if nothing is left open. -/
def finish? (b : Builder) : Option Tree :=
  match b.stack, b.awaiting with
  | [], .separator value => some value
  | _, _ => none

end Builder

def ofTokens? (ts : List Token) : Option Tree :=
  (ts.foldlM Builder.step? Builder.start).bind Builder.finish?

/-- The tree of a text that holds exactly one value. -/
def ofChars? (cs : List Char) : Option Tree :=
  (tokens? cs).bind ofTokens?

end Tree

end ScrollExport.Json
