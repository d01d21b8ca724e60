/-!
# Punycode

Names beyond ASCII written with letters, digits and dashes. The ASCII characters come first; then
each other character, in the order of the code points, as the distance from the one before it, a
number of base 36 whose digits end at a threshold that adapts.
-/

namespace ScrollExport.Punycode

def digitChar (d : Nat) : Char :=
  if d < 26 then Char.ofNat (0x61 + d) else Char.ofNat (0x30 + (d - 26))

def digitValue? (c : Char) : Option Nat :=
  if 'a' ≤ c && c ≤ 'z' then some (c.toNat - 'a'.toNat)
  else if '0' ≤ c && c ≤ '9' then some (c.toNat - '0'.toNat + 26)
  else none

/-- The threshold of the digit at position `k`, a multiple of 36. -/
def threshold (k bias : Nat) : Nat :=
  if k ≤ bias then 1 else min 26 (k - bias)

theorem threshold_pos (k bias : Nat) : 1 ≤ threshold k bias := by
  unfold threshold
  split <;> omega

/-- Divide by 35 until the distance is small, and count the divisions in steps of 36. -/
def shrink (delta k : Nat) : Nat × Nat :=
  if 455 < delta then shrink (delta / 35) (k + 36) else (delta, k)
termination_by delta
decreasing_by exact Nat.div_lt_self (by omega) (by omega)

/-- The bias after a distance was written. -/
def adapt (delta count : Nat) (first : Bool) : Nat :=
  let delta := if first then delta / 700 else delta / 2
  let (delta, k) := shrink (delta + delta / count) 0
  k + 36 * delta / (delta + 38)

/-! ### Encoding -/

/-- The digits of a distance from position `k` on. -/
def encodeDistance (bias k q : Nat) : List Char :=
  let t := threshold k bias
  if q < t then [digitChar q]
  else digitChar (t + (q - t) % (36 - t)) :: encodeDistance bias (k + 36) ((q - t) / (36 - t))
termination_by q
decreasing_by
  have := threshold_pos k bias
  exact Nat.lt_of_le_of_lt (Nat.div_le_self _ _) (by omega)

structure Encoder where
  output : List Char
  delta : Nat
  bias : Nat
  /-- How many characters are written. -/
  handled : Nat

/-- Pass one character of the name while code point `n` is being written. -/
def Encoder.visit (basic n : Nat) (e : Encoder) (c : Char) : Encoder :=
  if c.toNat < n then { e with delta := e.delta + 1 }
  else if c.toNat = n then
    { output := e.output ++ encodeDistance e.bias 36 e.delta
      delta := 0
      bias := adapt e.delta (e.handled + 1) (e.handled == basic)
      handled := e.handled + 1 }
  else e

/-- Write the code points `points`, in order; all below `n` are written. -/
def Encoder.run (name : List Char) (basic : Nat) (n : Nat) (e : Encoder) : List Nat → Encoder
  | [] => e
  | m :: rest =>
    let e := { e with delta := e.delta + (m - n) * (e.handled + 1) }
    let e := name.foldl (Encoder.visit basic m) e
    Encoder.run name basic (m + 1) { e with delta := e.delta + 1 } rest

def isAscii (c : Char) : Bool :=
  c.toNat < 0x80

def encode (name : List Char) : List Char :=
  let basic := name.filter isAscii
  let points := ((name.filter (!isAscii ·)).map Char.toNat).eraseDups.mergeSort
  let start := if basic = [] then [] else basic ++ ['-']
  (Encoder.run name basic.length 0x80 ⟨start, 0, 72, basic.length⟩ points).output

/-! ### Decoding -/

/-- Read the digits of a distance: the distance and the rest of the text. -/
def decodeDistance (bias : Nat) : List Char → (k weight total : Nat) → Option (Nat × List Char)
  | [], _, _, _ => none
  | c :: cs, k, weight, total =>
    (digitValue? c).bind fun d =>
      let total := total + d * weight
      let t := threshold k bias
      if d < t then some (total, cs) else decodeDistance bias cs (k + 36) (weight * (36 - t)) total

theorem decodeDistance_length {bias : Nat} {cs : List Char} {k weight total d : Nat}
    {rest : List Char} (h : decodeDistance bias cs k weight total = some (d, rest)) :
    rest.length < cs.length := by
  induction cs generalizing k weight total with
  | nil => simp [decodeDistance] at h
  | cons c cs ih =>
    simp only [decodeDistance, Option.bind_eq_some_iff] at h
    obtain ⟨v, -, h⟩ := h
    split at h
    · simp only [Option.some.injEq, Prod.mk.injEq] at h
      simp [← h.2]
    · have := ih h
      simp only [List.length_cons]
      omega

/-- Insert the characters that the distances of a text stand for. -/
def decodeInto (name : List Char) (n i bias : Nat) (first : Bool) (cs : List Char) :
    Option (List Char) :=
  if cs = [] then some name
  else
    match h : decodeDistance bias cs 36 1 0 with
    | none => none
    | some (delta, rest) =>
      have := decodeDistance_length h
      let count := name.length + 1
      let position := i + delta
      let n := n + position / count
      let place := position % count
      if n < 0xD800 ∨ (0xDFFF < n ∧ n < 0x110000) then
        let name := name.take place ++ Char.ofNat n :: name.drop place
        decodeInto name n (place + 1) (adapt delta count first) false rest
      else none
termination_by cs.length

def decode? (cs : List Char) : Option (List Char) :=
  let tail := (cs.reverse.takeWhile (· ≠ '-')).reverse
  let basic := (cs.take (cs.length - tail.length)).dropLast
  if basic.all isAscii then decodeInto basic 0x80 0 72 true tail else none

end ScrollExport.Punycode
