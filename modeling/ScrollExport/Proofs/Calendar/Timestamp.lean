import ScrollExport.Proofs.Calendar.Scanning

/-!
# Timestamps

The texts that stand for instants: a date, a date and a time, or both with an offset. A timestamp
has a form, which its text shows, and values, which may be in range or not. No text is that of two
timestamps (`Timestamp.chars_inj`).
-/

namespace ScrollExport.Instant

open Number
open Text (takeWhile_append_of_head?)
open Figure (IsYear IsField IsExact)

variable {rest rest' ds ds' : List Char}

/-! ### Fractions -/

/-- The point and the digits after it. Without digits there is no point. -/
def fractionChars : List Char → List Char
  | [] => []
  | c :: ds => '.' :: c :: ds

/-- Digits after a point in billionths, those after the ninth dropped. -/
def billionths (ds : List Char) : Nat :=
  ofDigits (ds.take 9) * Nat.pow 10 (9 - (ds.take 9).length)

/-- A text that does not go on with a second before it. -/
def EndsSecond (rest : List Char) : Prop :=
  ∀ c ∈ rest.head?, isDigit c = false ∧ c ≠ '.'

@[simp] lemma endsSecond_nil : EndsSecond [] := by
  simp [EndsSecond]

lemma EndsSecond.endsDigits (h : EndsSecond rest) : EndsDigits rest :=
  fun c hc => (h c hc).1

lemma EndsSecond.fractionChars (h : EndsSecond rest) (ds : List Char) :
    EndsDigits (fractionChars ds ++ rest) := by
  cases ds with
  | nil => exact h.endsDigits
  | cons c ds => exact endsDigits_cons.2 rfl

lemma fractionChars_append_inj (hd : ∀ c ∈ ds, isDigit c = true) (hd' : ∀ c ∈ ds', isDigit c = true)
    (hr : EndsSecond rest) (hr' : EndsSecond rest')
    (h : fractionChars ds ++ rest = fractionChars ds' ++ rest') : ds = ds' ∧ rest = rest' := by
  cases ds with
  | nil =>
    cases ds' with
    | nil => exact ⟨rfl, h⟩
    | cons c' ds' =>
      obtain rfl : rest = '.' :: c' :: (ds' ++ rest') := h
      exact absurd rfl (hr _ rfl).2
  | cons c ds =>
    cases ds' with
    | nil =>
      obtain rfl : '.' :: c :: (ds ++ rest) = rest' := h
      exact absurd rfl (hr' _ rfl).2
    | cons c' ds' =>
      have h : (c :: ds) ++ rest = (c' :: ds') ++ rest' := (List.cons.inj h).2
      have htake := congrArg (List.takeWhile isDigit) h
      rw [takeWhile_append_of_head? hd hr.endsDigits,
        takeWhile_append_of_head? hd' hr'.endsDigits] at htake
      rw [htake] at h
      exact ⟨htake, List.append_cancel_left h⟩

/-! ### Dates -/

/-- A year, a month and a day as they are written. -/
@[ext]
structure DateText where
  year : Figure
  month : Figure
  day : Figure

namespace DateText

variable {d d' : DateText}

def chars (d : DateText) : List Char :=
  d.year.chars ++ '-' :: (d.month.chars ++ '-' :: d.day.chars)

def date (d : DateText) : Date :=
  ⟨d.year.signed, d.month.number, d.day.number⟩

structure HasForm (year field : Figure → Prop) (d : DateText) : Prop where
  year : year d.year
  month : field d.month
  day : field d.day

lemma HasForm.loose (h : d.HasForm (IsExact 4) (IsExact 2)) : d.HasForm IsYear IsField :=
  ⟨h.year.isYear, h.month.isField, h.day.isField⟩

/-- A date that is followed by something else is known from the text. -/
lemma HasForm.append_inj (h : d.HasForm IsYear IsField) (h' : d'.HasForm IsYear IsField)
    (hr : EndsDigits rest) (hr' : EndsDigits rest') (he : d.chars ++ rest = d'.chars ++ rest') :
    d = d' ∧ rest = rest' := by
  simp only [chars, List.append_assoc, List.cons_append] at he
  obtain ⟨hyear, he⟩ := h.year.1.append_inj h'.year.1 (endsDigits_cons.2 rfl)
    (endsDigits_cons.2 rfl) he
  obtain ⟨hmonth, he⟩ := h.month.1.append_inj h'.month.1 (endsDigits_cons.2 rfl)
    (endsDigits_cons.2 rfl) (List.cons.inj he).2
  obtain ⟨hday, he⟩ := h.day.1.append_inj h'.day.1 hr hr' (List.cons.inj he).2
  exact ⟨DateText.ext hyear hmonth hday, he⟩

end DateText

/-! ### Times -/

/-- An hour, a minute and a second as they are written, and the digits after a point. -/
@[ext]
structure ClockText where
  hour : Figure
  minute : Figure
  second : Figure
  fraction : List Char

namespace ClockText

variable {t t' : ClockText}

def chars (t : ClockText) : List Char :=
  t.hour.chars ++ ':' :: (t.minute.chars ++ ':' :: (t.second.chars ++ fractionChars t.fraction))

/-- Nanoseconds since midnight. -/
def nanoseconds (t : ClockText) : Nat :=
  ((t.hour.number * 60 + t.minute.number) * 60 + t.second.number) * 1000000000 +
    billionths t.fraction

structure HasForm (field : Figure → Prop) (t : ClockText) : Prop where
  hour : field t.hour
  minute : field t.minute
  second : field t.second
  fraction : ∀ c ∈ t.fraction, isDigit c = true

/-- A minute may have a second sixty. -/
structure InRange (t : ClockText) : Prop where
  hour_le : t.hour.number ≤ 23
  minute_le : t.minute.number ≤ 59
  second_le : t.second.number ≤ 60

lemma HasForm.loose (h : t.HasForm (IsExact 2)) : t.HasForm IsField :=
  ⟨h.hour.isField, h.minute.isField, h.second.isField, h.fraction⟩

/-- A time that is followed by something else is known from the text. -/
lemma HasForm.append_inj (h : t.HasForm IsField) (h' : t'.HasForm IsField) (hr : EndsSecond rest)
    (hr' : EndsSecond rest') (he : t.chars ++ rest = t'.chars ++ rest') :
    t = t' ∧ rest = rest' := by
  simp only [chars, List.append_assoc, List.cons_append] at he
  obtain ⟨hhour, he⟩ := h.hour.1.append_inj h'.hour.1 (endsDigits_cons.2 rfl)
    (endsDigits_cons.2 rfl) he
  obtain ⟨hminute, he⟩ := h.minute.1.append_inj h'.minute.1 (endsDigits_cons.2 rfl)
    (endsDigits_cons.2 rfl) (List.cons.inj he).2
  obtain ⟨hsecond, he⟩ := h.second.1.append_inj h'.second.1 (hr.fractionChars _)
    (hr'.fractionChars _) (List.cons.inj he).2
  obtain ⟨hfraction, he⟩ := fractionChars_append_inj h.fraction h'.fraction hr hr' he
  exact ⟨ClockText.ext hhour hminute hsecond hfraction, he⟩

end ClockText

/-! ### Offsets -/

/-- An offset from universal time: a letter for none, or a sign, hours and minutes. -/
inductive OffsetText where
  | zulu (letter : Char)
  | ahead (sign : Char) (hours minutes : Figure)

namespace OffsetText

variable {o o' : OffsetText}

def chars : OffsetText → List Char
  | .zulu letter => [letter]
  | .ahead sign hours minutes => sign :: (hours.chars ++ ':' :: minutes.chars)

/-- Minutes ahead of universal time. -/
def minutes : OffsetText → Int
  | .zulu _ => 0
  | .ahead sign hours minutes =>
    if sign = '+' then hours.number * 60 + minutes.number
    else -(hours.number * 60 + minutes.number)

def HasForm : OffsetText → Prop
  | .zulu letter => letter = 'Z' ∨ letter = 'z'
  | .ahead sign hours minutes =>
    (sign = '+' ∨ sign = '-' ∨ sign = '\u2212') ∧ hours.IsExact 2 ∧ minutes.IsExact 2

def InRange : OffsetText → Prop
  | .zulu _ => True
  | .ahead _ hours minutes => hours.number ≤ 23 ∧ minutes.number ≤ 59

lemma HasForm.endsSecond (h : o.HasForm) : EndsSecond o.chars := by
  intro c hc
  cases o with
  | zulu letter =>
    obtain rfl : letter = c := by simpa [chars] using hc
    obtain rfl | rfl := h
    · exact ⟨rfl, by decide⟩
    · exact ⟨rfl, by decide⟩
  | ahead sign hours minutes =>
    obtain rfl : sign = c := by simpa [chars] using hc
    obtain rfl | rfl | rfl := h.1
    · exact ⟨rfl, by decide⟩
    · exact ⟨rfl, by decide⟩
    · exact ⟨rfl, by decide⟩

lemma HasForm.chars_inj (h : o.HasForm) (h' : o'.HasForm) (he : o.chars = o'.chars) : o = o' := by
  cases o with
  | zulu letter =>
    cases o' with
    | zulu letter' => rw [(List.cons.inj he).1]
    | ahead sign' hours' minutes' => simp [chars] at he
  | ahead sign hours minutes =>
    cases o' with
    | zulu letter' => simp [chars] at he
    | ahead sign' hours' minutes' =>
      obtain ⟨-, hh, hm⟩ := h
      obtain ⟨-, hh', hm'⟩ := h'
      obtain ⟨rfl, htail⟩ := List.cons.inj he
      obtain ⟨rfl, hcolon⟩ := hh.1.append_inj hh'.1 (endsDigits_cons.2 rfl) (endsDigits_cons.2 rfl)
        htail
      obtain ⟨rfl, -⟩ := hm.1.append_inj hm'.1 endsDigits_nil endsDigits_nil
        (congrArg (· ++ []) (List.cons.inj hcolon).2)
      rfl

end OffsetText

/-! ### Timestamps -/

/-- A text that is read as an instant, in its parts. -/
inductive Timestamp where
  | full (day : DateText) (separator : Char) (clock : ClockText) (offset : OffsetText)
  | universal (day : DateText) (clock : ClockText)
  | date (day : DateText)

namespace Timestamp

variable {w w' : Timestamp}

def chars : Timestamp → List Char
  | .full day separator clock offset => day.chars ++ separator :: (clock.chars ++ offset.chars)
  | .universal day clock => day.chars ++ 'T' :: clock.chars
  | .date day => day.chars

/-- With an offset every figure has its full width, without one it has the width it needs. -/
def HasForm : Timestamp → Prop
  | .full day separator clock offset =>
    day.HasForm (IsExact 4) (IsExact 2) ∧
      (separator = 'T' ∨ separator = 't' ∨ separator = ' ') ∧
      clock.HasForm (IsExact 2) ∧ offset.HasForm
  | .universal day clock => day.HasForm IsYear IsField ∧ clock.HasForm IsField
  | .date day => day.HasForm IsYear IsField

def InRange : Timestamp → Prop
  | .full day _ clock offset => day.date.isValid = true ∧ clock.InRange ∧ offset.InRange
  | .universal day clock => day.date.isValid = true ∧ clock.InRange
  | .date day => day.date.isValid = true

def instant : Timestamp → Instant
  | .full day _ clock offset =>
    ⟨(day.date.dayNumber * 1440 - offset.minutes) * 60000000000 + clock.nanoseconds⟩
  | .universal day clock => ⟨day.date.dayNumber * 1440 * 60000000000 + clock.nanoseconds⟩
  | .date day => ⟨day.date.dayNumber * 1440 * 60000000000⟩

/-! ### One writing for each text -/

def day : Timestamp → DateText
  | .full day _ _ _ => day
  | .universal day _ => day
  | .date day => day

/-- What follows the date. -/
def tail : Timestamp → List Char
  | .full _ separator clock offset => separator :: (clock.chars ++ offset.chars)
  | .universal _ clock => 'T' :: clock.chars
  | .date _ => []

lemma chars_eq (w : Timestamp) : w.chars = w.day.chars ++ w.tail := by
  cases w with
  | full => rfl
  | universal => rfl
  | date => exact (List.append_nil _).symm

lemma HasForm.day (h : w.HasForm) : w.day.HasForm IsYear IsField := by
  cases w with
  | full => exact h.1.loose
  | universal => exact h.1
  | date => exact h

lemma InRange.isValid (h : w.InRange) : w.day.date.isValid = true := by
  cases w with
  | full => exact h.1
  | universal => exact h.1
  | date => exact h

lemma HasForm.endsDigits_tail (h : w.HasForm) : EndsDigits w.tail := by
  cases w with
  | full day separator clock offset =>
    obtain ⟨-, rfl | rfl | rfl, -⟩ := h
    · exact endsDigits_cons.2 rfl
    · exact endsDigits_cons.2 rfl
    · exact endsDigits_cons.2 rfl
  | universal => exact endsDigits_cons.2 rfl
  | date => exact endsDigits_nil

/-- A time with an offset is not the time alone. -/
lemma clock_append_offset_ne {t t' : ClockText} {o : OffsetText} (ht : t.HasForm IsField)
    (ht' : t'.HasForm IsField) (ho : o.HasForm) : t.chars ++ o.chars ≠ t'.chars := by
  intro he
  rw [← List.append_nil t'.chars] at he
  obtain ⟨-, hnil⟩ := ht.append_inj ht' ho.endsSecond endsSecond_nil he
  cases o with
  | zulu => cases hnil
  | ahead => cases hnil

/-- No text is written in two ways. -/
theorem chars_inj (h : w.HasForm) (h' : w'.HasForm) (he : w.chars = w'.chars) : w = w' := by
  rw [chars_eq, chars_eq] at he
  obtain ⟨hday, htail⟩ := h.day.append_inj h'.day h.endsDigits_tail h'.endsDigits_tail he
  cases w with
  | full d c t o =>
    obtain ⟨-, -, ht, ho⟩ := h
    cases w' with
    | full d' c' t' o' =>
      obtain ⟨-, -, ht', ho'⟩ := h'
      obtain ⟨rfl, hclock⟩ := List.cons.inj htail
      obtain ⟨rfl, hoffset⟩ := ht.loose.append_inj ht'.loose ho.endsSecond ho'.endsSecond hclock
      obtain rfl := ho.chars_inj ho' hoffset
      obtain rfl : d = d' := hday
      rfl
    | universal d' t' =>
      exact absurd (List.cons.inj htail).2 (clock_append_offset_ne ht.loose h'.2 ho)
    | date => cases htail
  | universal d t =>
    cases w' with
    | full d' c' t' o' =>
      obtain ⟨-, -, ht', ho'⟩ := h'
      exact absurd (List.cons.inj htail).2.symm (clock_append_offset_ne ht'.loose h.2 ho')
    | universal d' t' =>
      obtain ⟨rfl, -⟩ := h.2.append_inj h'.2 endsSecond_nil endsSecond_nil
        (congrArg (· ++ []) (List.cons.inj htail).2)
      obtain rfl : d = d' := hday
      rfl
    | date => cases htail
  | date d =>
    cases w' with
    | full => cases htail
    | universal => cases htail
    | date d' =>
      obtain rfl : d = d' := hday
      rfl

end Timestamp

end ScrollExport.Instant
