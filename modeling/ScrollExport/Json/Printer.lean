import ScrollExport.Json.Basic
import ScrollExport.Number.Notation

/-!
# Writing JSON values

One printer for both layouts: compact, without any space, and indented by two spaces a level.
-/

namespace ScrollExport.Json

open Number

/-! ### Strings -/

/-- The lower case hexadecimal digit of a number below sixteen. -/
def hexDigit (n : Nat) : Char :=
  Nat.digitChar n

/-- Quotes, backslashes and controls are escaped, every other character stands for itself. -/
def escapeChar (c : Char) : List Char :=
  match c with
  | '"' => ['\\', '"']
  | '\\' => ['\\', '\\']
  | '\x08' => ['\\', 'b']
  | '\t' => ['\\', 't']
  | '\n' => ['\\', 'n']
  | '\x0c' => ['\\', 'f']
  | '\r' => ['\\', 'r']
  | c =>
    if c.toNat < 0x20 then
      ['\\', 'u', '0', '0', hexDigit (c.toNat / 16), hexDigit (c.toNat % 16)]
    else [c]

def stringChars (s : String) : List Char :=
  '"' :: s.toList.flatMap escapeChar ++ ['"']

/-! ### Layout -/

/-- Everything on one line, or indented and now at some depth. -/
inductive Layout where
  | compact
  | indented (depth : Nat)
deriving DecidableEq, Repr

namespace Layout

def deeper : Layout → Layout
  | .compact => .compact
  | .indented depth => .indented (depth + 1)

/-- A line break and the indentation of this depth. -/
def lineBreak : Layout → List Char
  | .compact => []
  | .indented depth => '\n' :: List.replicate (2 * depth) ' '

/-- What follows a colon. -/
def gap : Layout → List Char
  | .compact => []
  | .indented _ => [' ']

/-- Parts between brackets, separated by commas. -/
def block (l : Layout) (opening closing : Char) (parts : List (List Char)) : List Char :=
  if parts = [] then [opening, closing]
  else
    opening :: l.deeper.lineBreak ++ (',' :: l.deeper.lineBreak).intercalate parts ++
      l.lineBreak ++ [closing]

end Layout

mutual

def render (l : Layout) : Json → List Char
  | .null => ['n', 'u', 'l', 'l']
  | .bool true => ['t', 'r', 'u', 'e']
  | .bool false => ['f', 'a', 'l', 's', 'e']
  | .int i => intChars i
  | .float x => x.jsonChars
  | .str s => stringChars s
  | .arr items => Layout.block l '[' ']' (renderItems l.deeper items)
  | .obj members => Layout.block l '\x7b' '\x7d' (renderMembers l.deeper members)

def renderItems (l : Layout) : List Json → List (List Char)
  | [] => []
  | v :: vs => render l v :: renderItems l vs

def renderMembers (l : Layout) : List (String × Json) → List (List Char)
  | [] => []
  | (key, v) :: rest =>
    (stringChars key ++ ':' :: l.gap ++ render l v) :: renderMembers l rest

end

def compact (v : Json) : String :=
  String.ofList (render .compact v)

def pretty (v : Json) : String :=
  String.ofList (render (.indented 0) v)

end ScrollExport.Json
