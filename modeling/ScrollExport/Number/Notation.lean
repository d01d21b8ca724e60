import ScrollExport.Number.Shortest

/-!
# Notation of numbers

Three ways to write a binary number: as a JSON number, positionally, and with three decimal
places.
-/

namespace ScrollExport

open Number

namespace Decimal

/-- How many digits stand before the point when a decimal is written positionally. -/
def pointPlace (d : Decimal) : Int :=
  (natChars d.digits).length + d.exponent

/-- The digits before and after the point of a decimal written positionally. -/
def positional (d : Decimal) : List Char × List Char :=
  let ds := natChars d.digits
  let place := d.pointPlace
  if 0 ≤ d.exponent then (ds ++ List.replicate d.exponent.toNat '0', [])
  else if 0 < place then (ds.take place.toNat, ds.drop place.toNat)
  else (['0'], List.replicate (-place).toNat '0' ++ ds)

/-- One digit, the others after a point, and a signed power of ten. -/
def scientific (d : Decimal) : List Char :=
  let ds := natChars d.digits
  let exponent := d.pointPlace - 1
  let sign := if exponent < 0 then '-' else '+'
  ds.take 1 ++ (if ds.length = 1 then [] else '.' :: ds.drop 1) ++
    'e' :: sign :: natChars exponent.natAbs

end Decimal

namespace Binary64

def signChars (negative : Bool) : List Char :=
  if negative then ['-'] else []

/-- The text of a JSON number: positional from `1e-5` up to `1e16`, always with a fraction, and
otherwise with an exponent. -/
def jsonChars : Binary64 → List Char
  | .nan | .infinite _ => ['n', 'u', 'l', 'l']
  | .finite negative 0 _ => signChars negative ++ ['0', '.', '0']
  | .finite negative m e =>
    let d := shortest m e
    let place := d.pointPlace
    signChars negative ++
      if -5 < place ∧ place ≤ 16 then
        let (whole, fraction) := d.positional
        whole ++ '.' :: (if fraction = [] then ['0'] else fraction)
      else d.scientific

/-- The shortest digits without exponent, and without a point if the number is whole. -/
def plainChars : Binary64 → List Char
  | .nan => ['N', 'a', 'N']
  | .infinite negative => signChars negative ++ ['i', 'n', 'f']
  | .finite negative 0 _ => signChars negative ++ ['0']
  | .finite negative m e =>
    let (whole, fraction) := (shortest m e).positional
    signChars negative ++ whole ++ (if fraction = [] then [] else '.' :: fraction)

def plainText (x : Binary64) : String :=
  String.ofList (plainChars x)

/-- Exactly three decimal places, the exact value rounded to the nearest, ties to even. -/
def fixedChars : Binary64 → List Char
  | .finite negative m e =>
    let (a, b) := ratio m e
    let thousandths := roundQuotient (1000 * a) b
    signChars negative ++ natChars (thousandths / 1000) ++
      '.' :: paddedNat 3 (thousandths % 1000)
  | x => plainChars x

end Binary64

end ScrollExport
