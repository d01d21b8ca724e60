import ScrollExport.Keyed
import ScrollExport.Number.Binary64

/-!
# JSON values

Values with exact whole numbers, and objects whose members keep their order.
-/

namespace ScrollExport

/-- A whole number that fits a 64-bit word is an `int`; every other number is a `float`. -/
inductive Json where
  | null
  | bool (b : Bool)
  | int (i : Int)
  | float (x : Binary64)
  | str (s : String)
  | arr (items : List Json)
  | obj (members : List (String × Json))
deriving Inhabited

namespace Json

def nat (n : Nat) : Json :=
  .int n

/-- Text, or null. -/
def optionStr : Option String → Json
  | none => .null
  | some s => .str s

/-- The last value of a member, if the value is an object that has it. -/
def get? (v : Json) (key : String) : Option Json :=
  match v with
  | .obj members => Keyed.get? members key
  | _ => none

end Json

end ScrollExport
