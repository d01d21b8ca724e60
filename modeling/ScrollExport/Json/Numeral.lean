import ScrollExport.Json.Basic

/-!
# Numerals

The digits of a JSON number as they are written, and the number they stand for. Whole numbers that
fit a word are exact. Any other number keeps as many leading digits as fit an unsigned word, which
are rounded once, and is then multiplied or divided by a power of ten with a second rounding.
-/

namespace ScrollExport.Json

open Number

structure Numeral where
  negative : Bool
  whole : List Char
  fraction : Option (List Char)
  /-- Whether the exponent is negative, and its digits. -/
  exponent : Option (Bool × List Char)
deriving DecidableEq, Repr

namespace Numeral

/-! ### Scanning -/

/-- The digits after a point, if there is a point. -/
def scanFraction : List Char → Option (Option (List Char) × List Char)
  | '.' :: cs =>
    let ds := cs.takeWhile isDigit
    if ds = [] then none else some (some ds, cs.dropWhile isDigit)
  | cs => some (none, cs)

/-- The sign and the digits after an `e`, if there is one. -/
def scanExponent : List Char → Option (Option (Bool × List Char) × List Char)
  | [] => some (none, [])
  | c :: cs =>
    if c = 'e' ∨ c = 'E' then
      let (negative, rest) := splitSign cs
      let ds := rest.takeWhile isDigit
      if ds = [] then none else some (some (negative, ds), rest.dropWhile isDigit)
    else some (none, c :: cs)

/-- A minus sign, if there is one, and the rest. -/
def splitMinus : List Char → Bool × List Char
  | '-' :: cs => (true, cs)
  | cs => (false, cs)

/-- The numeral at the start of a text. No digit may follow a leading zero. -/
def scan (cs : List Char) : Option (Numeral × List Char) :=
  let (negative, body) := splitMinus cs
  let whole := body.takeWhile isDigit
  if whole = [] ∨ (whole.head? = some '0' ∧ whole.length ≠ 1) then none
  else
    (scanFraction (body.dropWhile isDigit)).bind fun (fraction, rest) =>
      (scanExponent rest).map fun (exponent, rest) =>
        (⟨negative, whole, fraction, exponent⟩, rest)

/-! ### Value -/

/-- Leading digits of a number, and how many powers of ten they stand for. -/
structure Significand where
  digits : Nat
  exponent : Int

/-- Append a digit if the result fits an unsigned word. -/
def pushDigit? (n : Nat) (c : Char) : Option Nat :=
  let n' := 10 * n + digitValue c
  if n' < unsignedBound then some n' else none

/-- Read whole digits; those after the first that does not fit count as powers of ten. -/
def wholeSignificand (n : Nat) : List Char → Significand
  | [] => ⟨n, 0⟩
  | c :: cs =>
    match pushDigit? n c with
    | some n' => wholeSignificand n' cs
    | none => ⟨n, (c :: cs).length⟩

/-- Read digits after the point; those from the first that does not fit are dropped. -/
def fractionSignificand (s : Significand) : List Char → Significand
  | [] => s
  | c :: cs =>
    match pushDigit? s.digits c with
    | some n => fractionSignificand ⟨n, s.exponent - 1⟩ cs
    | none => s

def powerOfTen (k : Nat) : Binary64 :=
  Binary64.ofNat (Nat.pow 10 k)

/-- The number `digits * 10 ^ exponent`, in two or three roundings, unless it is too large. -/
def assemble? (digits : Nat) (exponent : Int) : Option Binary64 :=
  let f := Binary64.ofNat digits
  if digits = 0 then some f
  else if 308 < exponent then none
  else if 0 ≤ exponent then
    match Binary64.mul f (powerOfTen exponent.toNat) with
    | .infinite _ => none
    | x => some x
  else if -308 ≤ exponent then some (Binary64.div f (powerOfTen (-exponent).toNat))
  else if -616 ≤ exponent then
    some (Binary64.div (Binary64.div f (powerOfTen 308)) (powerOfTen (-exponent - 308).toNat))
  else some (Binary64.zero false)

/-- The largest exponent that is read digit by digit. -/
def exponentBound : Nat := Nat.pow 2 31 - 1

def exponentValue : Option (Bool × List Char) → Int
  | none => 0
  | some (negative, ds) => if negative then -(ofDigits ds : Int) else ofDigits ds

/-- The nearest binary number by the rule above, unless it is too large. -/
def toBinary? (n : Numeral) : Option Binary64 :=
  let s := fractionSignificand (wholeSignificand 0 n.whole) (n.fraction.getD [])
  let exponent := exponentValue n.exponent
  let magnitude : Option Binary64 :=
    if exponentBound < exponent.natAbs then
      if s.digits ≠ 0 ∧ 0 < exponent then none else some (Binary64.zero false)
    else assemble? s.digits (s.exponent + exponent)
  magnitude.map fun x => if n.negative then x.neg else x

/-- The value of a numeral: exact if it is whole and fits a word. -/
def value? (n : Numeral) : Option Json :=
  let i : Int := ofDigits n.whole
  if n.fraction.isNone && n.exponent.isNone then
    if !n.negative && fitsUnsigned i then some (.int i)
    else if n.negative && i ≠ 0 && fitsSigned (-i) then some (.int (-i))
    else n.toBinary?.map .float
  else n.toBinary?.map .float

end Numeral

end ScrollExport.Json
