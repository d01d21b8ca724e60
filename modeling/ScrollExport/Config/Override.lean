import ScrollExport.Config.Path
import ScrollExport.Keyed
import ScrollExport.Text.Split

/-!
# Overrides

Assignments `key=value` split at their first equals sign. A value is a boolean, a whole number or
a binary number if it is written like one, and text otherwise.
-/

namespace ScrollExport.Config

open Number

/-! ### Decimal texts -/

namespace FloatText

/-- Text in lower case, ASCII letters only. -/
def lowered (cs : List Char) : String :=
  String.ofList (cs.map Char.toLower)

/-- The exponent after an `e`: zero if there is nothing. -/
def exponent? : List Char → Option Int
  | [] => some 0
  | c :: cs =>
    if c = 'e' ∨ c = 'E' then
      let (negative, ds) := splitSign cs
      (nat? ds).map fun n => if negative then -(n : Int) else n
    else none

/-- Digits with at most one point among them, and perhaps an exponent. -/
def decimal? (negative : Bool) (cs : List Char) : Option Binary64 :=
  let whole := cs.takeWhile isDigit
  let rest := cs.dropWhile isDigit
  let (fraction, rest) := match rest with
    | '.' :: rest => (rest.takeWhile isDigit, rest.dropWhile isDigit)
    | rest => ([], rest)
  if whole ++ fraction = [] then none
  else
    (exponent? rest).map fun e =>
      Binary64.ofDecimal negative (ofDigits (whole ++ fraction)) (e - fraction.length)

/-- Read a binary number; infinities and the value that is no number have names. -/
def read? (s : String) : Option Binary64 :=
  let (negative, cs) := splitSign s.toList
  if lowered cs = "inf" ∨ lowered cs = "infinity" then some (.infinite negative)
  else if lowered cs = "nan" then some .nan
  else decimal? negative cs

end FloatText

/-- The value that a text stands for. -/
def Scalar.ofText (s : String) : Scalar :=
  if s = "true" then .bool true
  else if s = "false" then .bool false
  else
    match signed? s.toList with
    | some i => .int i
    | none =>
      match FloatText.read? s with
      | some x => .float x
      | none => .str s

/-! ### Assignments -/

inductive OverrideError where
  | noEqualsSign (text : String)
  | badKey (key : String)
deriving DecidableEq, Repr

/-- The text of a wrong override. -/
def OverrideError.message : OverrideError → String
  | .noEqualsSign text =>
    "Key Value Splitting Error: missing '=' in setting override: " ++ text
  | .badKey key => "Setting Config Value Error: invalid key " ++ key

structure Assignment where
  path : KeyPath
  value : Scalar
deriving DecidableEq, Repr

namespace Assignment

def read (s : String) : Except OverrideError Assignment :=
  match Text.splitFirst '=' s.toList with
  | none => .error (.noEqualsSign s)
  | some (key, value) =>
    match KeyPath.read? (String.ofList key) with
    | none => .error (.badKey (String.ofList key))
    | some path => .ok ⟨path, Scalar.ofText (String.ofList value)⟩

end Assignment

/-- The configuration of some overrides: the last one of a path counts. -/
def ofOverrides (texts : List String) : Except OverrideError Value :=
  (texts.mapM Assignment.read).map fun assignments =>
    let last := Keyed.ofList (assignments.map fun a => (a.path, a.value))
    last.foldl (fun root a => a.1.assign root (.scalar none a.2)) .emptyTable

end ScrollExport.Config
