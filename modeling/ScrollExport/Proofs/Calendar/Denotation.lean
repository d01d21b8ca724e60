import Mathlib.Data.Rat.Floor
import ScrollExport.Proofs.Calendar.Counting
import ScrollExport.Proofs.Calendar.Reading

/-!
# The instants that timestamps denote

A timestamp denotes a rational number of seconds since the start of 1970: its days are counted on
the calendar, and every digit of its fraction counts. What is read from it is that number rounded
down to nanoseconds (`Denotes.nanoseconds_eq`), and in milliseconds it fits a signed word.
-/

namespace ScrollExport

open Number

namespace Instant

variable {ds : List Char}

/-- Digits after the ninth take away less than one billionth. -/
lemma billionths_eq (hd : ∀ c ∈ ds, isDigit c = true) :
    billionths ds = ofDigits ds * 10 ^ 9 / 10 ^ ds.length := by
  have hsplit := ofDigits_append (ds.take 9) (ds.drop 9)
  have hlt : ofDigits (ds.drop 9) < 10 ^ (ds.drop 9).length :=
    ofDigits_lt fun c hc => hd c (List.mem_of_mem_drop hc)
  rw [List.take_append_drop] at hsplit
  rw [billionths, List.length_take, Nat.pow_eq]
  rw [List.length_drop] at hsplit hlt
  rcases Nat.le_total ds.length 9 with hl | hl
  · rw [List.take_of_length_le hl, Nat.min_eq_right hl]
    refine (Nat.div_eq_of_eq_mul_left (by positivity) ?_).symm
    rw [Nat.mul_assoc, ← pow_add, Nat.sub_add_cancel hl]
  · obtain ⟨k, hk⟩ := Nat.exists_eq_add_of_le hl
    rw [hk] at hsplit hlt ⊢
    simp only [Nat.add_sub_cancel_left, Nat.min_eq_left (Nat.le_add_right 9 k), Nat.sub_self,
      pow_zero, Nat.mul_one] at hsplit hlt ⊢
    rw [hsplit, pow_add, Nat.mul_comm _ (10 ^ 9), Nat.mul_div_mul_left _ _ (by decide),
      Nat.mul_comm, Nat.mul_add_div (by positivity), Nat.div_eq_of_lt hlt, Nat.add_zero]

/-- An offset is less than a day. -/
lemma OffsetText.InRange.minutes_bounds {o : OffsetText} (h : o.InRange) :
    -1440 < o.minutes ∧ o.minutes < 1440 := by
  cases o with
  | zulu => simp [OffsetText.minutes]
  | ahead sign hours minutes =>
    obtain ⟨hh, hm⟩ := h
    simp only [OffsetText.minutes]
    split_ifs <;> omega

namespace ClockText

lemma InRange.nanoseconds_lt {t : ClockText} (h : t.InRange)
    (hd : ∀ c ∈ t.fraction, isDigit c = true) : t.nanoseconds < 86401000000000 := by
  have hb : billionths t.fraction < 10 ^ 9 := by
    rw [billionths_eq hd]
    exact Nat.div_lt_of_lt_mul (Nat.mul_lt_mul_of_pos_right (ofDigits_lt hd) (by decide))
  obtain ⟨hh, hm, hs⟩ := h
  rw [nanoseconds]
  omega

/-- Seconds since midnight, with all digits of the fraction. -/
def seconds (t : ClockText) : ℚ :=
  t.hour.number * 3600 + t.minute.number * 60 + t.second.number +
    ofDigits t.fraction / 10 ^ t.fraction.length

lemma nanoseconds_eq {t : ClockText} (hd : ∀ c ∈ t.fraction, isDigit c = true) :
    (t.nanoseconds : ℤ) = ⌊t.seconds * 1000000000⌋ := by
  have hfraction : (billionths t.fraction : ℤ) =
      ⌊((ofDigits t.fraction * 10 ^ 9 : ℕ) / (10 ^ t.fraction.length : ℕ) : ℚ)⌋ := by
    rw [Rat.floor_natCast_div_natCast, billionths_eq hd, Int.natCast_div]
  have hseconds : t.seconds * 1000000000 =
      (((t.hour.number * 60 + t.minute.number) * 60 + t.second.number) * 1000000000 : ℕ) +
        ((ofDigits t.fraction * 10 ^ 9 : ℕ) / (10 ^ t.fraction.length : ℕ) : ℚ) := by
    rw [seconds]
    push_cast
    ring
  rw [hseconds, Int.floor_natCast_add, ← hfraction, nanoseconds]
  push_cast
  rfl

end ClockText

namespace Timestamp

/-- Seconds in universal time since the midnight of its date. -/
def seconds : Timestamp → ℚ
  | .full _ _ clock offset => clock.seconds - offset.minutes * 60
  | .universal _ clock => clock.seconds
  | .date _ => 0

/-- Seconds since the start of 1970, with the days counted on the calendar. -/
def Denotes (w : Timestamp) (q : ℚ) : Prop :=
  ∃ n : ℤ, w.day.date.IsDay n ∧ q = n * 86400 + w.seconds

variable {w : Timestamp} {q : ℚ}

lemma InRange.isReal (h : w.InRange) : w.day.date.IsReal :=
  Date.isReal_of_isValid h.isValid

lemma Denotes.nanoseconds_eq (h : w.HasForm) (hr : w.InRange) (hq : w.Denotes q) :
    w.instant.nanoseconds = ⌊q * 1000000000⌋ := by
  obtain ⟨n, hn, rfl⟩ := hq
  have hday := (Date.isDay_iff hr.isReal).1 hn
  cases w with
  | full d c t o =>
    have hq : ((n : ℚ) * 86400 + seconds (.full d c t o)) * 1000000000 =
        ((n * 1440 - o.minutes) * 60000000000 : ℤ) + t.seconds * 1000000000 := by
      rw [seconds]
      push_cast
      ring
    rw [hq, Int.floor_intCast_add, ← ClockText.nanoseconds_eq h.2.2.1.fraction, ← hday]
    rfl
  | universal d t =>
    have hq : ((n : ℚ) * 86400 + seconds (.universal d t)) * 1000000000 =
        (n * 1440 * 60000000000 : ℤ) + t.seconds * 1000000000 := by
      rw [seconds]
      push_cast
      ring
    rw [hq, Int.floor_intCast_add, ← ClockText.nanoseconds_eq h.2.fraction, ← hday]
    rfl
  | date d =>
    have hq : ((n : ℚ) * 86400 + seconds (.date d)) * 1000000000 =
        (n * 1440 * 60000000000 : ℤ) := by
      rw [seconds]
      push_cast
      ring
    rw [hq, Int.floor_intCast, ← hday]
    rfl

lemma Denotes.milliseconds_eq (h : w.HasForm) (hr : w.InRange) (hq : w.Denotes q) :
    w.instant.milliseconds = ⌊q * 1000⌋ := by
  have hscale : q * 1000 = q * 1000000000 / (1000000 : ℕ) := by
    push_cast
    ring
  rw [milliseconds, hq.nanoseconds_eq h hr, hscale, Int.floor_div_natCast]
  rfl

lemma InRange.exists_denotes (h : w.InRange) : ∃ q, w.Denotes q :=
  ⟨_, _, (Date.isDay_iff h.isReal).2 rfl, rfl⟩

lemma Denotes.eq (h : w.InRange) {q' : ℚ} (hq : w.Denotes q) (hq' : w.Denotes q') : q = q' := by
  obtain ⟨n, hn, rfl⟩ := hq
  obtain ⟨n', hn', rfl⟩ := hq'
  rw [← (Date.isDay_iff h.isReal).1 hn, ← (Date.isDay_iff h.isReal).1 hn']

/-! ### Range -/

lemma milliseconds_bounds (h : w.HasForm) (hr : w.InRange) :
    -10000000000000000 < w.instant.milliseconds ∧
      w.instant.milliseconds < 10000000000000000 := by
  obtain ⟨hlow, hhigh⟩ := Date.dayNumber_bounds_of_isValid hr.isValid
  unfold milliseconds
  cases w with
  | full d c t o =>
    have ht := hr.2.1.nanoseconds_lt h.2.2.1.fraction
    have ho := hr.2.2.minutes_bounds
    simp only [instant, day] at *
    omega
  | universal d t =>
    have ht := hr.2.nanoseconds_lt h.2.fraction
    simp only [instant, day] at *
    omega
  | date d =>
    simp only [instant, day] at *
    omega

end Timestamp

/-! ### Texts -/

/-- The seconds since the start of 1970 that a text denotes as a timestamp. -/
def Names (s : String) (q : ℚ) : Prop :=
  ∃ w : Timestamp, w.HasForm ∧ w.InRange ∧ w.chars = s.toList ∧ w.Denotes q

variable {s : String} {q q' : ℚ}

/-- A text that is read denotes an instant, and what is read is that, rounded down. -/
lemma exists_names_of_read? {i : Instant} (h : read? s = some i) :
    ∃ q, Names s q ∧ i.nanoseconds = ⌊q * 1000000000⌋ ∧ i.milliseconds = ⌊q * 1000⌋ := by
  obtain ⟨w, hw, hr, hs, rfl⟩ := read?_eq_some_iff.1 h
  obtain ⟨q, hq⟩ := hr.exists_denotes
  exact ⟨q, ⟨w, hw, hr, hs, hq⟩, hq.nanoseconds_eq hw hr, hq.milliseconds_eq hw hr⟩

/-- A text denotes one instant. -/
lemma Names.eq (h : Names s q) (h' : Names s q') : q = q' := by
  obtain ⟨w, hw, hr, hs, hq⟩ := h
  obtain ⟨w', hw', -, hs', hq'⟩ := h'
  obtain rfl := Timestamp.chars_inj hw hw' (hs.trans hs'.symm)
  exact hq.eq hr hq'

lemma Names.isBlankText_eq_false (h : Names s q) : Text.isBlankText s = false := by
  obtain ⟨w, -, -, hs, -⟩ := h
  have hmem : '-' ∈ w.chars := by
    rw [Timestamp.chars_eq]
    simp [DateText.chars]
  rw [Text.isBlankText, List.all_eq_false]
  exact ⟨'-', hs ▸ hmem, by decide⟩

/-- A text that denotes an instant is read, in whole milliseconds rounded down. -/
lemma Names.exists_read? (h : Names s q) :
    ∃ i, read? s = some i ∧ i.milliseconds = ⌊q * 1000⌋ := by
  obtain ⟨w, hw, hr, hs, hq⟩ := h
  exact ⟨w.instant, read?_eq_some_iff.2 ⟨w, hw, hr, hs, rfl⟩, hq.milliseconds_eq hw hr⟩

/-- The milliseconds of every instant that is read fit a signed word. -/
lemma Names.fitsSigned_milliseconds (h : Names s q) : fitsSigned ⌊q * 1000⌋ = true := by
  obtain ⟨w, hw, hr, -, hq⟩ := h
  have hb := Timestamp.milliseconds_bounds hw hr
  rw [hq.milliseconds_eq hw hr] at hb
  have hword : signedBound = 9223372036854775808 := rfl
  simp only [fitsSigned, hword, Bool.and_eq_true, decide_eq_true_eq]
  omega

end Instant

end ScrollExport
