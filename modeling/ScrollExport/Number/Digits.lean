/-!
# Decimal digits

Reading and writing whole numbers in decimal, and the ranges of 64-bit words.
-/

namespace ScrollExport.Number

def isDigit (c : Char) : Bool :=
  '0' ≤ c && c ≤ '9'

def digitValue (c : Char) : Nat :=
  c.toNat - '0'.toNat

/-- The number that a list of decimal digits writes, most significant first. -/
def ofDigits (ds : List Char) : Nat :=
  ds.foldl (fun n c => 10 * n + digitValue c) 0

@[simp] theorem ofDigits_nil : ofDigits [] = 0 := rfl

theorem ofDigits_concat (ds : List Char) (c : Char) :
    ofDigits (ds ++ [c]) = 10 * ofDigits ds + digitValue c := by
  simp [ofDigits]

def natChars (n : Nat) : List Char :=
  Nat.toDigits 10 n

def intChars (i : Int) : List Char :=
  if i < 0 then '-' :: natChars i.natAbs else natChars i.natAbs

def natText (n : Nat) : String :=
  String.ofList (natChars n)

def intText (i : Int) : String :=
  String.ofList (intChars i)

/-- The digits of `n`, with zeros before them up to `width`. -/
def paddedNat (width n : Nat) : List Char :=
  let ds := natChars n
  List.replicate (width - ds.length) '0' ++ ds

/-! ### 64-bit words -/

/-- One past the largest unsigned word. -/
def unsignedBound : Nat := Nat.pow 2 64

/-- One past the largest signed word. -/
def signedBound : Nat := Nat.pow 2 63

def fitsUnsigned (i : Int) : Bool :=
  0 ≤ i && i < unsignedBound

def fitsSigned (i : Int) : Bool :=
  -signedBound ≤ i && i < signedBound

/-- One or more digits and nothing else. -/
def nat? (cs : List Char) : Option Nat :=
  if cs ≠ [] ∧ cs.all isDigit then some (ofDigits cs) else none

/-- A sign, if there is one, and the rest. -/
def splitSign : List Char → Bool × List Char
  | '-' :: cs => (true, cs)
  | '+' :: cs => (false, cs)
  | cs => (false, cs)

/-- A signed word: an optional sign and decimal digits, within range. -/
def signed? (cs : List Char) : Option Int :=
  let (negative, ds) := splitSign cs
  (nat? ds).bind fun n =>
    let i : Int := if negative then -n else n
    if fitsSigned i then some i else none

/-- An unsigned word: an optional plus and decimal digits, within range. -/
def unsigned? : List Char → Option Nat
  | '+' :: ds => (nat? ds).filter (· < unsignedBound)
  | ds => (nat? ds).filter (· < unsignedBound)

end ScrollExport.Number
