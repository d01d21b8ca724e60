import ScrollExport.Calendar.Date
import ScrollExport.Number.Digits
import ScrollExport.Text.Blank

/-!
# Instants

Points in time, and the three shapes of text in which they are read: a full date and time with its
offset, a date and time in universal time, and a date, which is its midnight in universal time.
-/

namespace ScrollExport

open Number Text

/-- A time of day. The second sixty is the fifty-ninth with one more second of nanoseconds. -/
structure TimeOfDay where
  hour : Nat
  minute : Nat
  second : Nat
  nanosecond : Nat
deriving DecidableEq, Repr

def TimeOfDay.midnight : TimeOfDay :=
  ⟨0, 0, 0, 0⟩

def TimeOfDay.nanoseconds (t : TimeOfDay) : Nat :=
  ((t.hour * 60 + t.minute) * 60 + t.second) * 1000000000 + t.nanosecond

/-- Nanoseconds since the start of 1970 in universal time. -/
structure Instant where
  nanoseconds : Int
deriving DecidableEq, Repr

namespace Instant

/-- The instant at which clocks `offset` minutes ahead of universal time show a date and time. -/
def ofLocal (d : Date) (t : TimeOfDay) (offset : Int) : Instant :=
  ⟨(d.dayNumber * 1440 - offset) * 60000000000 + t.nanoseconds⟩

/-- Whole milliseconds since the start of 1970, rounded down. -/
def milliseconds (i : Instant) : Int :=
  i.nanoseconds / 1000000

/-! ### Scanning -/

/-- A number of at least `least` and at most `most` digits. -/
def scanNumber (least most : Nat) (cs : List Char) : Option (Nat × List Char) :=
  let ds := (cs.take most).takeWhile isDigit
  if ds.length < least then none else some (ofDigits ds, cs.drop ds.length)

def scanChar (c : Char) : List Char → Option (List Char)
  | [] => none
  | c' :: cs => if c' = c then some cs else none

/-- Digits after a point, as nanoseconds; those after the ninth are dropped. -/
def scanFraction : List Char → Option (Nat × List Char)
  | '.' :: cs =>
    let ds := (cs.take 9).takeWhile isDigit
    if ds = [] then none
    else some (ofDigits ds * Nat.pow 10 (9 - ds.length), cs.dropWhile isDigit)
  | cs => some (0, cs)

/-- A time of day whose numbers are in range. -/
def timeOfDay? (hour minute second nanosecond : Nat) : Option TimeOfDay :=
  if 23 < hour ∨ 59 < minute ∨ 60 < second then none
  else if second = 60 then some ⟨hour, minute, 59, 1000000000 + nanosecond⟩
  else some ⟨hour, minute, second, nanosecond⟩

def date? (year : Int) (month day : Nat) : Option Date :=
  let d : Date := ⟨year, month, day⟩
  if d.isValid then some d else none

/-! ### Full date and time -/

/-- Minutes ahead of universal time: `Z`, or a sign, two digits, a colon and two digits. -/
def scanOffset : List Char → Option (Int × List Char)
  | 'Z' :: cs | 'z' :: cs => some (0, cs)
  | sign :: cs =>
    if sign = '+' ∨ sign = '-' ∨ sign = '\u2212' then do
      let (hours, cs) ← scanNumber 2 2 cs
      let cs ← scanChar ':' cs
      let (minutes, cs) ← scanNumber 2 2 cs
      if 23 < hours ∨ 59 < minutes then none
      else
        let ahead : Int := hours * 60 + minutes
        some (if sign = '+' then ahead else -ahead, cs)
    else none
  | [] => none

/-- Drop the separator between a date and a time. -/
def scanSeparator : List Char → Option (List Char)
  | 'T' :: cs | 't' :: cs | ' ' :: cs => some cs
  | _ => none

/-- Four, two and two digits, a separator, a time with an optional fraction, and an offset. -/
def ofFull? (cs : List Char) : Option Instant := do
  let (year, cs) ← scanNumber 4 4 cs
  let cs ← scanChar '-' cs
  let (month, cs) ← scanNumber 2 2 cs
  let cs ← scanChar '-' cs
  let (day, cs) ← scanNumber 2 2 cs
  let cs ← scanSeparator cs
  let (hour, cs) ← scanNumber 2 2 cs
  let cs ← scanChar ':' cs
  let (minute, cs) ← scanNumber 2 2 cs
  let cs ← scanChar ':' cs
  let (second, cs) ← scanNumber 2 2 cs
  let (nanosecond, cs) ← scanFraction cs
  let (offset, cs) ← scanOffset cs
  if cs ≠ [] then none
  else
    let d ← date? year month day
    let t ← timeOfDay? hour minute second nanosecond
    some (ofLocal d t offset)

/-! ### Dates and times without offset -/

/-- One or two digits after any blanks. -/
def scanField (cs : List Char) : Option (Nat × List Char) :=
  scanNumber 1 2 (cs.dropWhile isBlank)

/-- A year after any blanks: up to four digits, or any number of them after a sign. -/
def scanYear (cs : List Char) : Option (Int × List Char) :=
  match cs.dropWhile isBlank with
  | '-' :: cs => (scanNumber 1 cs.length cs).map fun (n, cs) => (-(n : Int), cs)
  | '+' :: cs => (scanNumber 1 cs.length cs).map fun (n, cs) => ((n : Int), cs)
  | cs => (scanNumber 1 4 cs).map fun (n, cs) => ((n : Int), cs)

/-- A year, a month and a day with dashes between them. -/
def scanDate (cs : List Char) : Option (Date × List Char) := do
  let (year, cs) ← scanYear cs
  let cs ← scanChar '-' cs
  let (month, cs) ← scanField cs
  let cs ← scanChar '-' cs
  let (day, cs) ← scanField cs
  let d ← date? year month day
  some (d, cs)

/-- A date, the letter `T` and a time with an optional fraction, in universal time. -/
def ofUniversal? (cs : List Char) : Option Instant := do
  let (d, cs) ← scanDate cs
  let cs ← scanChar 'T' cs
  let (hour, cs) ← scanField cs
  let cs ← scanChar ':' cs
  let (minute, cs) ← scanField cs
  let cs ← scanChar ':' cs
  let (second, cs) ← scanField cs
  let (nanosecond, cs) ← scanFraction cs
  if cs ≠ [] then none
  else
    let t ← timeOfDay? hour minute second nanosecond
    some (ofLocal d t 0)

/-- A date, at its midnight in universal time. -/
def ofDate? (cs : List Char) : Option Instant := do
  let (d, cs) ← scanDate cs
  if cs ≠ [] then none else some (ofLocal d .midnight 0)

/-- Read an instant in any of the three shapes. -/
def read? (s : String) : Option Instant :=
  let cs := s.toList
  ofFull? cs <|> ofUniversal? cs <|> ofDate? cs

end Instant

end ScrollExport
