/-!
# Similar texts

How alike two texts are, as an exact fraction: a match is the same character at places that are not
far apart, and the more matches, the fewer of them out of order and the longer the common start, the
more alike the texts.
-/

namespace ScrollExport.Text

/-- The characters of the second text that are matched so far. -/
structure Matches where
  /-- The places that are taken, the last one first. -/
  taken : List Nat
  /-- How many were matched before the place that was taken last. -/
  outOfOrder : Nat

/-- Match the character at a place of the first text with the first free one near it. -/
def Matches.step (other : List Char) (reach : Nat) (m : Matches) (c : Char × Nat) : Matches :=
  let free := (List.range other.length).find? fun j =>
    c.2 - reach ≤ j && j ≤ c.2 + reach && other[j]? == some c.1 && !m.taken.contains j
  match free with
  | none => m
  | some j => ⟨j :: m.taken, if j < m.taken.headD 0 then m.outOfOrder + 1 else m.outOfOrder⟩

/-- The matches of two texts; places up to half of the longer one are near. -/
def nearMatches (a b : List Char) : Matches :=
  a.zipIdx.foldl (Matches.step b (max a.length b.length / 2 - 1)) ⟨[], 0⟩

def commonStart : List Char → List Char → Nat
  | a :: as, b :: bs => if a = b then commonStart as bs + 1 else 0
  | _, _ => 0

/-- Whether the similarity of two texts is above four fifths. -/
def isSimilar (a b : String) : Bool :=
  let (a, b) := (a.toList, b.toList)
  let m := nearMatches a b
  let count := m.taken.length
  let whole := 3 * a.length * b.length * count
  let part := count * b.length * count + count * a.length * count +
    (count - m.outOfOrder) * a.length * b.length
  8 * whole < 10 * part + commonStart a b * (whole - part)

end ScrollExport.Text
