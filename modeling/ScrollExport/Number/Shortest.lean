import ScrollExport.Number.Binary64

/-!
# Shortest decimals

The decimal with the fewest digits that rounds to a given binary number, and of those the one
nearest to it.
-/

namespace ScrollExport

/-- `digits * 10 ^ exponent`. -/
structure Decimal where
  digits : Nat
  exponent : Int
deriving DecidableEq, Repr

namespace Binary64

/-- The decimals that round to a positive number, in units of a quarter of its last bit: from
`low` to `high`, the ends included if `closed`. -/
structure RoundingInterval where
  low : Nat
  middle : Nat
  high : Nat
  closed : Bool

def roundingInterval (m : Nat) (e : Int) : RoundingInterval where
  low := if m = Nat.pow 2 52 ∧ minExponent < e then 4 * m - 1 else 4 * m - 2
  middle := 4 * m
  high := 4 * m + 2
  closed := m % 2 = 0

/-- Numerator and denominator of a quarter of `2 ^ e`, in units of `10 ^ p`. -/
def gridRatio (e p : Int) : Nat × Nat :=
  (Nat.pow 2 (e - 2).toNat * Nat.pow 10 (-p).toNat, Nat.pow 2 (2 - e).toNat * Nat.pow 10 p.toNat)

/-- The multiple of `10 ^ p` in the interval that is nearest to the number, if there is one. -/
def onGrid (interval : RoundingInterval) (e p : Int) : Option Decimal :=
  let (a, b) := gridRatio e p
  let below := interval.middle * a / b
  let inside (d : Nat) : Bool :=
    if interval.closed then interval.low * a ≤ d * b && d * b ≤ interval.high * a
    else interval.low * a < d * b && d * b < interval.high * a
  let above := below + 1
  let lowGap := interval.middle * a - below * b
  let highGap := above * b - interval.middle * a
  match inside below, inside above with
  | true, true =>
    if lowGap < highGap || (lowGap == highGap && below % 2 == 0) then some ⟨below, p⟩
    else some ⟨above, p⟩
  | true, false => some ⟨below, p⟩
  | false, true => some ⟨above, p⟩
  | false, false => none

/-- An exponent of ten above which no multiple rounds to the number. -/
def topExponent (m : Nat) (e : Int) : Int :=
  ((m.log2 : Int) + e + 1) * 30103 / 100000 + 2

/-- The shortest decimal of the positive number `m * 2 ^ e`. -/
def shortest (m : Nat) (e : Int) : Decimal :=
  let interval := roundingInterval m e
  let top := topExponent m e
  ((List.range 24).findSome? fun (k : Nat) => onGrid interval e (top - k)).getD ⟨0, 0⟩

end Binary64

end ScrollExport
