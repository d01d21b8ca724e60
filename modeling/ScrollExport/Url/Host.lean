import ScrollExport.Number.Digits
import ScrollExport.Text.Case
import ScrollExport.Text.Split
import ScrollExport.Text.Unprintable
import ScrollExport.Url.Percent
import ScrollExport.Url.Punycode

/-!
# Hosts

The host of a URL: a name, or an address of four or of sixteen bytes. Names are lower case and
ASCII; other letters are written in Punycode. A name whose last part is a number is an address.

Of the mapping that comes before Punycode a name has four parts: ignored characters, full width
forms, other full stops and lower case. Compatible letters are not put together.
-/

namespace ScrollExport

open Text Number

/-- Why a text is no URL. -/
inductive UrlError where
  | relative
  | emptyHost
  | port
  | domainName
  | domainCharacter
  | ipv4
  | ipv6
deriving DecidableEq, Repr

def UrlError.message : UrlError → String
  | .relative => "relative URL without a base"
  | .emptyHost => "empty host"
  | .port => "invalid port number"
  | .domainName => "invalid international domain name"
  | .domainCharacter => "invalid domain character"
  | .ipv4 => "invalid IPv4 address"
  | .ipv6 => "invalid IPv6 address"

inductive Host where
  | domain (name : String)
  | ipv4 (address : Nat)
  /-- The eight pairs of bytes. -/
  | ipv6 (pieces : List Nat)
deriving DecidableEq, Repr

namespace Host

/-! ### Addresses of four bytes -/

/-- A part that is no number, and a part that is. -/
inductive AddressPart where
  | tooLarge
  | number (n : Nat)

def readRadix? (radix : Nat) (digits : List Char) : Option Nat :=
  digits.foldlM
    (fun n c => (Json.hexValue? c).bind fun d => if d < radix then some (radix * n + d) else none)
    0

/-- A number in decimal, octal after `0` or hexadecimal after `0x`. -/
def addressPart? (cs : List Char) : Option AddressPart :=
  let value (radix : Nat) (digits : List Char) : Option AddressPart :=
    (readRadix? radix digits).map fun n => if n < Nat.pow 2 32 then .number n else .tooLarge
  match cs with
  | [] => none
  | '0' :: 'x' :: ds | '0' :: 'X' :: ds => value 16 ds
  | '0' :: d :: ds => value 8 (d :: ds)
  | ds => value 10 ds

/-- The parts of a name between dots, without an empty one at the end. -/
def dottedParts (name : List Char) : List (List Char) :=
  let parts := splitChars (· = '.') name
  if parts.getLast? = some [] then parts.dropLast else parts

def endsInNumber (name : List Char) : Bool :=
  match (dottedParts name).getLast? with
  | none => false
  | some last => (last ≠ [] && last.all isDigit) || (addressPart? last).isSome

/-- The numbers of all parts, if each is one and none is too large. -/
def partNumbers? (parts : List (List Char)) : Option (List Nat) :=
  parts.mapM fun part =>
    match addressPart? part with
    | some (.number n) => some n
    | _ => none

/-- An address: the last number fills all the bytes that the others leave. -/
def ipv4? (name : List Char) : Option Nat :=
  let parts := dottedParts name
  if 4 < parts.length then none
  else
    (partNumbers? parts).bind fun numbers =>
      match numbers.getLast? with
      | none => none
      | some last =>
        let before := numbers.dropLast
        if Nat.pow 256 (4 - before.length) ≤ last ∨ before.any (255 < ·) then none
        else
          some (before.zipIdx.foldr (fun (n, k) rest => n * Nat.pow 256 (3 - k) + rest) last)

def ipv4Chars (address : Nat) : List Char :=
  ['.'].intercalate ([3, 2, 1, 0].map fun k => natChars (address / Nat.pow 256 k % 256))

/-! ### Addresses of sixteen bytes -/

/-- Up to four hexadecimal digits. -/
def hexPiece? (cs : List Char) : Option Nat :=
  if cs = [] ∨ 4 < cs.length then none else Json.hexNumber? cs

/-- Four decimal numbers, as two pieces. -/
def embedded? (cs : List Char) : Option (List Nat) :=
  let parts := splitChars (· = '.') cs
  let number? (part : List Char) : Option Nat :=
    if part.length ≠ 1 ∧ part.head? = some '0' then none else (nat? part).filter (· < 256)
  match parts.mapM number? with
  | some [a, b, c, d] => some [256 * a + b, 256 * c + d]
  | _ => none

/-- The pieces between colons; the last may be a dotted address. -/
def pieces? : List (List Char) → Option (List Nat)
  | [] => some []
  | [last] =>
    if last.contains '.' then embedded? last else (hexPiece? last).map ([·])
  | p :: ps => (hexPiece? p).bind fun n => (pieces? ps).map (n :: ·)

def piecesOf? (cs : List Char) : Option (List Nat) :=
  if cs = [] then some [] else pieces? (splitChars (· = ':') cs)

/-- The part before a double colon and the part after it, if there is one. -/
def splitDouble : List Char → Option (List Char × List Char)
  | [] => none
  | ':' :: ':' :: cs => some ([], cs)
  | c :: cs => (splitDouble cs).map fun (a, b) => (c :: a, b)

/-- Eight pieces, or fewer around a double colon that stands for at least one zero. -/
def ipv6? (cs : List Char) : Option (List Nat) :=
  match splitDouble cs with
  | none => (piecesOf? cs).filter (·.length = 8)
  | some (before, after) =>
    if before.contains '.' then none
    else
      (piecesOf? before).bind fun a => (piecesOf? after).bind fun b =>
        if a.length + b.length ≤ 7 then some (a ++ List.replicate (8 - a.length - b.length) 0 ++ b)
        else none

/-- The start and length of the first longest run of zeros. -/
def longestZeros (pieces : List Nat) : Nat × Nat :=
  let lengthAt (k : Nat) : Nat := ((pieces.drop k).takeWhile (· = 0)).length
  (List.range pieces.length).foldl
    (fun best k => if best.2 < lengthAt k then (k, lengthAt k) else best) (0, 0)

def piecesChars (pieces : List Nat) : List Char :=
  [':'].intercalate (pieces.map (Nat.toDigits 16))

/-- Hexadecimal pieces, the longest run of two or more zeros left out. -/
def ipv6Chars (pieces : List Nat) : List Char :=
  let (start, length) := longestZeros pieces
  if length < 2 then piecesChars pieces
  else piecesChars (pieces.take start) ++ [':', ':'] ++ piecesChars (pieces.drop (start + length))

/-! ### Names -/

/-- Characters that leave no trace in a name. -/
def isIgnored (c : Char) : Bool :=
  let n := c.toNat
  n == 0xAD || n == 0x34F || n == 0x200B || n == 0x2060 || n == 0x2064 || n == 0xFEFF ||
    (0x180B ≤ n && n ≤ 0x180D) || (0xFE00 ≤ n && n ≤ 0xFE0F)

/-- Full width forms become ASCII, and the other full stops become dots. -/
def foldWidth (c : Char) : Char :=
  let n := c.toNat
  if n == 0x3002 || n == 0xFF61 then '.'
  else if 0xFF01 ≤ n && n ≤ 0xFF5E then Char.ofNat (n - 0xFEE0)
  else c

/-- ASCII characters that no name may hold. -/
def isForbidden (c : Char) : Bool :=
  c.toNat ≤ 0x20 || c.toNat = 0x7F || "%#/:<>?@[\\]^|".toList.contains c

def isAllowed (c : Char) : Bool :=
  if Punycode.isAscii c then !isForbidden c else !isUnprintable c || c.toNat = 0x200C

/-- The start of a label in Punycode. -/
def punycodeMark : List Char := "xn--".toList

/-- A label in ASCII, if it is one: Punycode must decode to what encodes to it. -/
def label? (cs : List Char) : Option (List Char) :=
  if !cs.all isAllowed then none
  else if !cs.all Punycode.isAscii then some (punycodeMark ++ Punycode.encode cs)
  else if punycodeMark.isPrefixOf cs then
    (Punycode.decode? (cs.drop 4)).bind fun name =>
      if name.all Punycode.isAscii || !name.all isAllowed ||
          Punycode.encode name ≠ cs.drop 4 then none
      else some cs
  else some cs

/-- The ASCII form of a name. -/
def domain? (cs : List Char) : Option (List Char) :=
  let folded := ((cs.filter (!isIgnored ·)).map foldWidth).flatMap lowerChar
  ((splitChars (· = '.') folded).mapM label?).map (['.'].intercalate ·)

/-! ### Reading and writing -/

/-- Characters that the host of a scheme without rules may not hold. -/
def isForbiddenOpaque (c : Char) : Bool :=
  "\x00\t\n\r #/:<>?@[\\]^|".toList.contains c

def bracketed? (cs : List Char) : Except UrlError Host :=
  match cs.getLast? with
  | some ']' =>
    match ipv6? (cs.drop 1).dropLast with
    | some pieces => .ok (.ipv6 pieces)
    | none => .error .ipv6
  | _ => .error .ipv6

/-- The host of a URL whose scheme has rules for hosts. -/
def read (cs : List Char) : Except UrlError Host :=
  if cs.head? = some '[' then bracketed? cs
  else
    match (String.fromUTF8? ⟨(Percent.decode cs).toArray⟩).bind fun s => domain? s.toList with
    | none => .error .domainName
    | some [] => .error .emptyHost
    | some name =>
      if endsInNumber name then
        match ipv4? name with
        | some address => .ok (.ipv4 address)
        | none => .error .ipv4
      else .ok (.domain (String.ofList name))

/-- The host of any other URL, which may be empty. -/
def readOpaque (cs : List Char) : Except UrlError Host :=
  if cs.head? = some '[' then bracketed? cs
  else if cs.any isForbiddenOpaque then .error .domainCharacter
  else .ok (.domain (String.ofList (Percent.encode Percent.inControls cs)))

def chars : Host → List Char
  | .domain name => name.toList
  | .ipv4 address => ipv4Chars address
  | .ipv6 pieces => '[' :: ipv6Chars pieces ++ [']']

end Host

end ScrollExport
