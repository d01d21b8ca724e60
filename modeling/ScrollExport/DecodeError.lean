import ScrollExport.Json.Basic
import ScrollExport.Number.Notation
import ScrollExport.Text.Quoted

/-!
# Decoding errors

Why a value does not describe what is wanted, and how a message names the value that was found.
-/

namespace ScrollExport

inductive DecodeError where
  | wrongType (found expected : String)
  | wrongValue (found expected : String)
  | wrongLength (found : Nat) (expected : String)
  | missingField (name : String)
  | refused (reason : String)
deriving DecidableEq, Repr

namespace DecodeError

def message : DecodeError → String
  | .wrongType found expected => "invalid type: " ++ found ++ ", expected " ++ expected
  | .wrongValue found expected => "invalid value: " ++ found ++ ", expected " ++ expected
  | .wrongLength found expected =>
    "invalid length " ++ Number.natText found ++ ", expected " ++ expected
  | .missingField name => "missing field `" ++ name ++ "`"
  | .refused reason => reason

/-- A number in a message always has a point. -/
def floatText (x : Binary64) : String :=
  let cs := x.plainChars
  String.ofList (if cs.contains '.' then cs else cs ++ ['.', '0'])

end DecodeError

/-- How a message names a JSON value. -/
def Json.described : Json → String
  | .null => "null"
  | .bool true => "boolean `true`"
  | .bool false => "boolean `false`"
  | .int i => "integer `" ++ Number.intText i ++ "`"
  | .float x => "floating point `" ++ DecodeError.floatText x ++ "`"
  | .str s => "string " ++ Text.quoted s
  | .arr _ => "sequence"
  | .obj _ => "map"

end ScrollExport
