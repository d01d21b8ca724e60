import ScrollExport.Config.Value
import ScrollExport.DecodeError
import ScrollExport.Number.Digits
import ScrollExport.Text.Case

/-!
# Decoding configurations

What is wanted of a value is taken from it with some good will: numbers and booleans are text, and
texts are numbers if they are written like one. A value that cannot be taken is reported with the
path of its key and the source it came from.
-/

namespace ScrollExport.Config

open Number

/-- Why a configuration does not describe what is wanted. -/
inductive SettingError where
  /-- A value of the wrong type, the path to it and its source. -/
  | wrongType (found expected : String) (key origin : Option String)
  | malformed (e : DecodeError)
deriving DecidableEq, Repr

namespace SettingError

def message : SettingError → String
  | .wrongType found expected key origin =>
    (DecodeError.wrongType found expected).message ++
      ((key.map fun k => " for key `" ++ k ++ "`").getD "") ++
      ((origin.map fun o => " in " ++ o).getD "")
  | .malformed e => e.message

/-- Put a step before the path of the key. -/
def within (step : String) (isKey : Bool) : SettingError → SettingError
  | .wrongType found expected key origin =>
    let rest := key.getD ""
    let dot := if isKey && rest.toList.head? ≠ some '[' && rest ≠ "" then "." else ""
    .wrongType found expected (some (step ++ dot ++ rest)) origin
  | e => e

end SettingError

abbrev Decoded (α : Type) := Except SettingError α

namespace Value

/-! ### Names of values -/

def described : Value → String
  | .scalar _ .nil => "unit value"
  | .scalar _ (.bool true) => "boolean `true`"
  | .scalar _ (.bool false) => "boolean `false`"
  | .scalar _ (.int i) => "integer 64 bit `" ++ intText i ++ "`"
  | .scalar _ (.float x) => "floating point `" ++ x.plainText ++ "`"
  | .scalar _ (.str s) => "string " ++ Text.quoted s
  | .arr _ _ => "sequence"
  | .table _ _ => "map"

/-- The names that messages about whole parts of a configuration use. -/
def partDescribed : Value → String
  | .scalar _ (.int i) => "integer `" ++ intText i ++ "`"
  | .scalar _ (.float x) => "floating point `" ++ DecodeError.floatText x ++ "`"
  | v => v.described

def wrongType (v : Value) (expected : String) : SettingError :=
  .wrongType v.described expected none v.origin

/-! ### Scalars -/

def asText (v : Value) : Decoded String :=
  match v with
  | .scalar _ (.str s) => .ok s
  | .scalar _ (.bool b) => .ok (if b then "true" else "false")
  | .scalar _ (.int i) => .ok (intText i)
  | .scalar _ (.float x) => .ok x.plainText
  | v => .error (v.wrongType "a string")

/-- Text, unless there is no value. -/
def asOptionText (v : Value) : Decoded (Option String) :=
  match v with
  | .scalar _ .nil => .ok none
  | v => v.asText.map some

/-- The nearest unsigned word. -/
def nearestWord : Binary64 → Nat
  | .nan => 0
  | .infinite negative => if negative then 0 else unsignedBound - 1
  | .finite negative m e => min (Binary64.roundAway negative m e).toNat (unsignedBound - 1)

/-- The number that a text stands for: a switch or an unsigned word. -/
def countOfText? (s : String) : Option Nat :=
  if Text.toLower s ∈ ["true", "on", "yes"] then some 1
  else if Text.toLower s ∈ ["false", "off", "no"] then some 0
  else unsigned? s.toList

def asCount (v : Value) : Decoded Nat :=
  match v with
  | .scalar _ (.int i) =>
    if 0 ≤ i then .ok i.toNat
    else .error (v.wrongType "an unsigned 64 bit or less integer")
  | .scalar _ (.str s) =>
    match countOfText? s with
    | some n => .ok n
    | none => .error (v.wrongType "an integer")
  | .scalar _ (.bool b) => .ok (if b then 1 else 0)
  | .scalar _ (.float x) => .ok (nearestWord x)
  | v => .error (v.wrongType "an integer")

/-! ### Parts -/

/-- A part of a configuration, as messages name it: its fields in order. -/
structure PartName where
  name : String
  fields : List String

/-- Either the entries of a table or items that stand for the fields in order. -/
def part (v : Value) (p : PartName) : Decoded Unit :=
  match v with
  | .scalar _ _ => .error (.malformed (.wrongType v.partDescribed p.name))
  | _ => .ok ()

/-- Where a field of a part is, as a step of a path, and its value. -/
def located? (v : Value) (p : PartName) (name : String) : Option (String × Bool × Value) :=
  match v with
  | .scalar _ _ => none
  | .table _ es => (Entries.get? es name).map fun v => (name, true, v)
  | .arr _ vs =>
    let n := p.fields.idxOf name
    vs[n]?.map fun v => ("[" ++ natText n ++ "]", false, v)

/-- Decode a field of a part, if it is there. -/
def field? {α : Type} (v : Value) (p : PartName) (name : String) (decode : Value → Decoded α) :
    Decoded (Option α) :=
  match v.located? p name with
  | none => .ok none
  | some (step, isKey, v) =>
    match decode v with
    | .ok a => .ok (some a)
    | .error e => .error (e.within step isKey)

/-- How many fields a part has, as messages say it. -/
def PartName.withCount (p : PartName) : String :=
  p.name ++ " with " ++ natText p.fields.length ++
    (if p.fields.length = 1 then " element" else " elements")

/-- The error of a part without one of its fields. -/
def missing (v : Value) (p : PartName) (name : String) : SettingError :=
  match v with
  | .arr _ _ => .malformed (.wrongLength (p.fields.idxOf name) p.withCount)
  | _ => .malformed (.missingField name)

def required {α : Type} (v : Value) (p : PartName) (name : String) (field : Option α) :
    Decoded α :=
  match field with
  | some a => .ok a
  | none => .error (v.missing p name)

end Value

end ScrollExport.Config
