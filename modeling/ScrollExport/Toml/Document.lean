import ScrollExport.Keyed
import ScrollExport.Toml.Datetime
import ScrollExport.Toml.Numeral

/-!
# TOML documents

Lines of keys and values below headers that name tables. A key is set once. A table that a header
named, a key with dots made or a value wrote is closed to the other two; only a table that longer
headers implied can still be named.
-/

namespace ScrollExport.Toml

/-! ### Keys -/

def dropGap : List Token → List Token
  | .gap _ :: ts => ts
  | ts => ts

def keyPart? : Token → Option String
  | .word w => some (String.ofList w)
  | .text cs false => some (String.ofList cs)
  | _ => none

/-- Keys with dots between them; at most `n` of them. -/
def scanKeys : Nat → List Token → Option (List String × List Token)
  | 0, _ => none
  | _, [] => none
  | n + 1, t :: ts =>
    (keyPart? t).bind fun key =>
      match dropGap ts with
      | .mark '.' :: ts => (scanKeys n (dropGap ts)).map fun (keys, ts) => (key :: keys, ts)
      | ts => some ([key], ts)

/-! ### Trees of tables -/

/-- How a table came to be. -/
inductive TableKind where
  | implied
  | named
  | dotted
deriving DecidableEq, Repr

inductive Node where
  | value (v : Value)
  | table (kind : TableKind) (entries : List (String × Node))
  | tables (items : List (List (String × Node)))
deriving Inhabited

abbrev Nodes := List (String × Node)

namespace Nodes

/-- Set a key with dots, in tables that only such keys make. -/
def setKey (v : Value) : List String → Nodes → Option Nodes
  | [], _ => none
  | [key], es => if (Keyed.get? es key).isSome then none else some (Keyed.put es key (.value v))
  | key :: rest, es =>
    match Keyed.get? es key with
    | none => (setKey v rest []).map fun sub => Keyed.put es key (.table .dotted sub)
    | some (.table .dotted sub) =>
      (setKey v rest sub).map fun sub => Keyed.put es key (.table .dotted sub)
    | some _ => none

/-- Name a table, or one more table of an array. -/
def nameTable (array : Bool) (key : String) (es : Nodes) : Option Nodes :=
  match array, Keyed.get? es key with
  | false, none => some (Keyed.put es key (.table .named []))
  | false, some (.table .implied sub) => some (Keyed.put es key (.table .named sub))
  | true, none => some (Keyed.put es key (.tables [[]]))
  | true, some (.tables items) => some (Keyed.put es key (.tables (items ++ [[]])))
  | _, some _ => none

/-- Change the last of some tables. -/
def mapLast? (f : Nodes → Option Nodes) (items : List Nodes) : Option (List Nodes) :=
  (items.getLast?.bind f).map fun es => items.dropLast ++ [es]

/-- Walk down a header and name the table at its end. -/
def nameAt (array : Bool) : List String → Nodes → Option Nodes
  | [], _ => none
  | [key], es => nameTable array key es
  | key :: rest, es =>
    match Keyed.get? es key with
    | none => (nameAt array rest []).map fun sub => Keyed.put es key (.table .implied sub)
    | some (.table .dotted _) | some (.value _) => none
    | some (.table kind sub) =>
      (nameAt array rest sub).map fun sub => Keyed.put es key (.table kind sub)
    | some (.tables items) =>
      (mapLast? (nameAt array rest) items).map fun items => Keyed.put es key (.tables items)

/-- Change the table that a header has named. -/
def changeAt (f : Nodes → Option Nodes) : List String → Nodes → Option Nodes
  | [], es => f es
  | key :: rest, es =>
    match Keyed.get? es key with
    | some (.table kind sub) =>
      (changeAt f rest sub).map fun sub => Keyed.put es key (.table kind sub)
    | some (.tables items) =>
      (mapLast? (changeAt f rest) items).map fun items => Keyed.put es key (.tables items)
    | _ => none

mutual

def toValue : Node → Value
  | .value v => v
  | .table _ entries => .table (toEntries entries)
  | .tables items => .arr (toItems items)

def toEntries : List (String × Node) → List (String × Value)
  | [] => []
  | (key, n) :: rest => (key, toValue n) :: toEntries rest

def toItems : List (List (String × Node)) → List Value
  | [] => []
  | es :: rest => .table (toEntries es) :: toItems rest

end

end Nodes

/-! ### Values -/

def isFiller : Token → Bool
  | .gap _ | .newline | .comment => true
  | _ => false

/-- Drop gaps, line breaks and comments. -/
def dropFillers (ts : List Token) : List Token :=
  ts.dropWhile isFiller

/-- A value that is a word, and the tokens that belong to it. -/
def scanWord (w : List Char) (ts : List Token) : Option (Value × List Token) :=
  if w = "true".toList then some (.bool true, ts)
  else if w = "false".toList then some (.bool false, ts)
  else
    let startsNumber := (w.head?.any fun c => c = '-' || Number.isDigit c) ||
      w = "inf".toList || w = "nan".toList
    if !startsNumber then none
    else if looksLikeDate w then scanDatetime w false ts
    else
      match ts with
      | .mark ':' :: ts => scanDatetime w true ts
      | ts => scanNumber w ts

mutual

/-- The value at the start of some tokens; `n` bounds the steps. -/
def scanValue (n : Nat) (ts : List Token) : Option (Value × List Token) :=
  match n, ts with
  | 0, _ | _, [] => none
  | n + 1, t :: ts =>
    match t with
    | .text cs _ => some (.str (String.ofList cs), ts)
    | .word w => scanWord w ts
    | .mark '+' =>
      match ts with
      | .word w :: ts => scanNumber w ts
      | _ => none
    | .mark '[' => (scanItems n ts).map fun (vs, ts) => (.arr vs, ts)
    | .mark '\x7b' =>
      match dropGap ts with
      | .mark '\x7d' :: ts => some (.table [], ts)
      | ts => (scanInline n [] ts).map fun (es, ts) => (.table (Nodes.toEntries es), ts)
    | _ => none

/-- The items of an array up to its end. -/
def scanItems (n : Nat) (ts : List Token) : Option (List Value × List Token) :=
  match n with
  | 0 => none
  | n + 1 =>
    match dropFillers ts with
    | .mark ']' :: ts => some ([], ts)
    | ts =>
      match scanValue n ts with
      | none => none
      | some (v, ts) =>
        match dropFillers ts with
        | .mark ']' :: ts => some ([v], ts)
        | .mark ',' :: ts => (scanItems n ts).map fun (vs, ts) => (v :: vs, ts)
        | _ => none

/-- The keys and values of an inline table up to its end. -/
def scanInline (n : Nat) (es : Nodes) (ts : List Token) : Option (Nodes × List Token) :=
  match n with
  | 0 => none
  | n + 1 =>
    match scanKeys (ts.length + 1) ts with
    | some (keys, .mark '=' :: ts) =>
      match scanValue n (dropGap ts) with
      | none => none
      | some (v, ts) =>
        match Nodes.setKey v keys es with
        | none => none
        | some es =>
          match dropGap ts with
          | .mark '\x7d' :: ts => some (es, ts)
          | .mark ',' :: ts => scanInline n es (dropGap ts)
          | _ => none
    | _ => none

end

/-! ### Lines -/

/-- The root table, and the header that names the current one. -/
structure State where
  root : Nodes
  header : List String

/-- Only a comment may stand before the end of a line. -/
def scanLineEnd (ts : List Token) : Option (List Token) :=
  match dropGap ts with
  | [] => some []
  | .newline :: ts => some (.newline :: ts)
  | .comment :: ts => some ts
  | _ => none

def scanHeader (ts : List Token) : Option ((Bool × List String) × List Token) :=
  let array := ts.head? = some (.mark '[')
  let ts := if array then ts.tail else ts
  match scanKeys (ts.length + 1) (dropGap ts) with
  | some (keys, .mark ']' :: ts) =>
    if array then
      match ts with
      | .mark ']' :: ts => (scanLineEnd ts).map ((true, keys), ·)
      | _ => none
    else (scanLineEnd ts).map ((false, keys), ·)
  | _ => none

/-- Read one line that is not empty. Nothing after the comment of a header counts. -/
def State.line (s : State) (ts : List Token) : Option (State × List Token) :=
  match ts with
  | .mark '[' :: ts =>
    (scanHeader ts).bind fun ((array, keys), ts) =>
      (Nodes.nameAt array keys s.root).map fun root =>
        (⟨root, keys⟩, ts.dropWhile (· ≠ .newline))
  | ts =>
    match scanKeys (ts.length + 1) ts with
    | some (keys, .mark '=' :: ts) =>
      (scanValue (2 * ts.length + 2) (dropGap ts)).bind fun (v, ts) =>
        (scanLineEnd ts).bind fun ts =>
          (Nodes.changeAt (Nodes.setKey v keys) s.header s.root).map fun root =>
            ({ s with root }, ts)
    | _ => none

/-- Read at most `n` lines. -/
def State.lines (n : Nat) (s : State) (ts : List Token) : Option State :=
  match n, dropFillers ts with
  | _, [] => some s
  | 0, _ => none
  | n + 1, ts => (s.line ts).bind fun (s, ts) => s.lines n ts

/-- The entries of a document. -/
def read? (cs : List Char) : Option (List (String × Value)) :=
  let ts := tokens cs
  (State.lines (ts.length + 1) ⟨[], []⟩ ts).map fun s => Nodes.toEntries s.root

end ScrollExport.Toml
