import ScrollExport.Json.Token
import ScrollExport.Text.Bytes

/-!
# Percent encoding

Bytes written as a percent sign and two upper case hexadecimal digits, and the characters that each
part of a URL writes in this way.
-/

namespace ScrollExport.Percent

open Text

def upperHexDigit (n : Nat) : Char :=
  (Nat.digitChar n).toUpper

def encodeByte (b : UInt8) : List Char :=
  ['%', upperHexDigit (b.toNat / 16), upperHexDigit (b.toNat % 16)]

def encodeChar (c : Char) : List Char :=
  (utf8 [c]).flatMap encodeByte

/-- Encode the characters of a set, and keep the others. -/
def encode (isEncoded : Char → Bool) (cs : List Char) : List Char :=
  cs.flatMap fun c => if isEncoded c then encodeChar c else [c]

/-- The bytes of an encoded text; a percent sign without two digits after it stands for itself. -/
def decode : List Char → List UInt8
  | '%' :: a :: b :: rest =>
    match Json.hexValue? a, Json.hexValue? b with
    | some m, some n => (16 * m + n).toUInt8 :: decode rest
    | _, _ => utf8 ['%'] ++ decode (a :: b :: rest)
  | c :: rest => utf8 [c] ++ decode rest
  | [] => []

/-! ### Sets of encoded characters -/

/-- Controls and everything beyond ASCII. -/
def inControls (c : Char) : Bool :=
  c.toNat < 0x20 || 0x7E < c.toNat

def inFragment (c : Char) : Bool :=
  inControls c || " \"<>`".toList.contains c

def inPath (c : Char) : Bool :=
  inFragment c || c = '#' || c = '?' || c = '\x7b' || c = '\x7d'

def inUserInfo (c : Char) : Bool :=
  inPath c || "/:;=@[\\]^|".toList.contains c

def inQuery (c : Char) : Bool :=
  inControls c || " \"#<>".toList.contains c

/-- The query of a URL with a special scheme encodes apostrophes too. -/
def inSpecialQuery (c : Char) : Bool :=
  inQuery c || c = '\''

/-- A name inside a path keeps ASCII letters, digits and a few marks. -/
def inName (c : Char) : Bool :=
  !(c.isAlphanum || "_-.,*".toList.contains c)

end ScrollExport.Percent
