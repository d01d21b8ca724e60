import ScrollExport.Toml.Token
import ScrollExport.Toml.Value

/-!
# TOML dates and times

A date, a time or both, and an offset if there are both. The numbers are checked one by one, and
the normal form writes them with fixed widths.
-/

namespace ScrollExport.Toml

open Number

structure DatePart where
  year : Nat
  month : Nat
  day : Nat
deriving DecidableEq, Repr

structure TimePart where
  hour : Nat
  minute : Nat
  second : Nat
  nanosecond : Nat
deriving DecidableEq, Repr

inductive Offset where
  | universal
  | custom (hours : Int) (minutes : Nat)
deriving DecidableEq, Repr

structure Datetime where
  date : Option DatePart
  time : Option TimePart
  offset : Option Offset
deriving DecidableEq, Repr

namespace Datetime

/-! ### Reading -/

/-- Exactly `n` digits. -/
def digits (n : Nat) (cs : List Char) : Option (Nat × List Char) :=
  let ds := cs.take n
  if ds.length = n ∧ ds.all isDigit then some (ofDigits ds, cs.drop n) else none

def char (c : Char) : List Char → Option (List Char)
  | [] => none
  | c' :: cs => if c' = c then some cs else none

def readDate (cs : List Char) : Option (DatePart × List Char) := do
  let (year, cs) ← digits 4 cs
  let cs ← char '-' cs
  let (month, cs) ← digits 2 cs
  let cs ← char '-' cs
  let (day, cs) ← digits 2 cs
  if month < 1 ∨ 12 < month ∨ day < 1 ∨ 31 < day then none else some (⟨year, month, day⟩, cs)

/-- Nanoseconds after a point; the digits after the ninth are dropped. -/
def readFraction (cs : List Char) : Option (Nat × List Char) :=
  match cs with
  | '.' :: rest =>
    let ds := rest.takeWhile isDigit
    if ds = [] then none
    else
      let kept := ds.take 9
      some (ofDigits kept * Nat.pow 10 (9 - kept.length), rest.dropWhile isDigit)
  | cs => some (0, cs)

def readTime (cs : List Char) : Option (TimePart × List Char) := do
  let (hour, cs) ← digits 2 cs
  let cs ← char ':' cs
  let (minute, cs) ← digits 2 cs
  let cs ← char ':' cs
  let (second, cs) ← digits 2 cs
  let (nanosecond, cs) ← readFraction cs
  if 24 < hour ∨ 59 < minute ∨ 59 < second then none
  else some (⟨hour, minute, second, nanosecond⟩, cs)

def readOffset (cs : List Char) : Option (Option Offset) :=
  match cs with
  | [] => some none
  | ['Z'] | ['z'] => some (some .universal)
  | sign :: cs =>
    if sign ≠ '+' ∧ sign ≠ '-' then none
    else do
      let (hours, cs) ← digits 2 cs
      let cs ← char ':' cs
      let (minutes, cs) ← digits 2 cs
      if cs ≠ [] then none
      else some (some (.custom (if sign = '-' then -(hours : Int) else hours) minutes))

/-- A colon after two characters makes a time without date. -/
def isTimeOnly (cs : List Char) : Bool :=
  cs[2]? = some ':'

def startsTime (c : Char) : Bool :=
  c = 'T' || c = 't' || c = ' '

def read (cs : List Char) : Option Datetime :=
  if isTimeOnly cs then
    match readTime cs with
    | some (t, []) => some ⟨none, some t, none⟩
    | _ => none
  else
    (readDate cs).bind fun (d, rest) =>
      match rest with
      | [] => some ⟨some d, none, none⟩
      | c :: rest =>
        if startsTime c then
          (readTime rest).bind fun (t, rest) =>
            (readOffset rest).map fun o => ⟨some d, some t, o⟩
        else none

/-! ### Writing -/

def dateChars (d : DatePart) : List Char :=
  paddedNat 4 d.year ++ '-' :: paddedNat 2 d.month ++ '-' :: paddedNat 2 d.day

def fractionChars (nanosecond : Nat) : List Char :=
  if nanosecond = 0 then []
  else '.' :: ((paddedNat 9 nanosecond).reverse.dropWhile (· = '0')).reverse

def timeChars (t : TimePart) : List Char :=
  paddedNat 2 t.hour ++ ':' :: paddedNat 2 t.minute ++ ':' :: paddedNat 2 t.second ++
    fractionChars t.nanosecond

def offsetChars : Offset → List Char
  | .universal => ['Z']
  | .custom hours minutes =>
    (if hours < 0 then '-' else '+') :: paddedNat 2 hours.natAbs ++ ':' :: paddedNat 2 minutes

def toChars (d : Datetime) : List Char :=
  ((d.date.map dateChars).getD []) ++
    (if d.date.isSome && d.time.isSome then ['T'] else []) ++
    ((d.time.map timeChars).getD []) ++ ((d.offset.map offsetChars).getD [])

end Datetime

/-! ### Scanning -/

/-- Whether a word starts a date: it has a `T`, or a dash that is no sign of an exponent. -/
def looksLikeDate (w : List Char) : Bool :=
  w.contains 'T' || w.contains 't' ||
    (w.tail.contains '-' && !(hasExponentSign 'e' w) && !(hasExponentSign 'E' w))
where
  hasExponentSign (e : Char) : List Char → Bool
    | a :: b :: rest => (a = e && b = '-') || hasExponentSign e (b :: rest)
    | _ => false

/-- A mark and a word after it, if the mark is there. -/
def scanMarked (mark : Char) (ts : List Token) : Option (List Char × List Token) :=
  match ts with
  | .mark c :: rest =>
    if c = mark then
      match rest with
      | .word w :: rest => some (mark :: w, rest)
      | _ => none
    else some ([], ts)
  | ts => some ([], ts)

/-- Minutes, seconds, fraction and offset after the hour's colon. -/
def scanClock (ts : List Token) : Option (List Char × List Token) :=
  match ts with
  | .word minutes :: .mark ':' :: .word seconds :: ts => do
    let (fraction, ts) ← scanMarked '.' ts
    let (hours, ts) ← scanMarked '+' ts
    let (offset, ts) ← scanMarked ':' ts
    some (minutes ++ ':' :: seconds ++ fraction ++ hours ++ offset, ts)
  | _ => none

/-- The hour after a single space, if there is one. -/
def scanHour (ts : List Token) : List Char × List Token :=
  match ts with
  | .gap [' '] :: .word hour :: rest => (' ' :: hour, rest)
  | ts => ([], ts)

/-- The date or time that starts with a word, after the colon if it is gone. -/
def scanDatetime (w : List Char) (colonGone : Bool) (ts : List Token) :
    Option (Value × List Token) :=
  let (hour, ts) := scanHour ts
  let start := w ++ (if colonGone then [':'] else []) ++ hour
  let scanned : Option (List Char × List Token) :=
    if colonGone then (scanClock ts).map fun (cs, ts) => (start ++ cs, ts)
    else
      match ts with
      | .mark ':' :: ts => (scanClock ts).map fun (cs, ts) => (start ++ ':' :: cs, ts)
      | ts => some (start, ts)
  scanned.bind fun (cs, ts) =>
    (Datetime.read cs).map fun d => (.str (String.ofList d.toChars), ts)

end ScrollExport.Toml
