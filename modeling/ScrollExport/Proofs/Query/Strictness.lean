import ScrollExport.Proofs.Query.Acceptance

/-!
# Strict bounds

The strict shapes of ISO 8601 as patterns of texts, against the bounds that are accepted. An
accepted bound is the text of a timestamp. It is strict unless a figure of a timestamp without
offset has blanks or a sign before it or is not of full width, or a blank stands between a date and
a time, or the sign of an offset is not an ASCII one.
-/

namespace ScrollExport

open Number

namespace Instant

open Figure (IsYear IsField IsExact)

variable {cs ds pattern : List Char} {width : Nat}

/-! ### Patterns -/

/-- A digit for each zero of a pattern, and its other characters as they are. -/
def follows : List Char → List Char → Bool
  | [], [] => true
  | p :: pattern, c :: cs => (if p = '0' then isDigit c else c == p) && follows pattern cs
  | _, _ => false

lemma follows_nil_iff : follows [] cs = true ↔ cs = [] := by
  cases cs <;> simp [follows]

lemma follows_cons_iff {p : Char} (hp : p ≠ '0') :
    follows (p :: pattern) cs = true ↔ ∃ rest, cs = p :: rest ∧ follows pattern rest = true := by
  cases cs with
  | nil => simp [follows]
  | cons c cs => simp [follows, hp]

lemma length_of_follows (h : follows pattern cs = true) : cs.length = pattern.length := by
  induction pattern generalizing cs with
  | nil => rw [follows_nil_iff.1 h]
  | cons p pattern ih =>
    cases cs with
    | nil => simp [follows] at h
    | cons c cs =>
      rw [follows, Bool.and_eq_true] at h
      rw [List.length_cons, List.length_cons, ih h.2]

lemma follows_zeros_iff :
    follows (List.replicate width '0' ++ pattern) cs = true ↔
      ∃ ds rest, cs = ds ++ rest ∧ ds.length = width ∧ (∀ c ∈ ds, isDigit c = true) ∧
        follows pattern rest = true := by
  induction width generalizing cs with
  | zero => simp
  | succ width ih =>
    cases cs with
    | nil => simp [follows, List.replicate_succ]
    | cons c cs =>
      simp only [List.replicate_succ, List.cons_append, follows, if_true, Bool.and_eq_true, ih]
      constructor
      · rintro ⟨hc, ds, rest, rfl, rfl, hd, hp⟩
        exact ⟨c :: ds, rest, rfl, rfl, List.forall_mem_cons.2 ⟨hc, hd⟩, hp⟩
      · rintro ⟨_ | ⟨c', ds⟩, rest, he, hl, hd, hp⟩
        · simp at hl
        · obtain ⟨rfl, rfl⟩ := List.cons.inj he
          obtain ⟨hc, hd⟩ := List.forall_mem_cons.1 hd
          exact ⟨hc, ds, rest, rfl, Nat.succ.inj hl, hd, hp⟩

/-- Zeros at the start of a pattern stand for a number of full width. -/
lemma follows_figure_iff (hw : 0 < width) :
    follows (List.replicate width '0' ++ pattern) cs = true ↔
      ∃ f : Figure, f.IsExact width ∧ ∃ rest, cs = f.chars ++ rest ∧
        follows pattern rest = true := by
  rw [follows_zeros_iff]
  constructor
  · rintro ⟨ds, rest, rfl, hl, hd, hp⟩
    exact ⟨_, Figure.isExact_mk hw hd hl, rest, rfl, hp⟩
  · rintro ⟨f, ⟨hf, hb, hs, hl⟩, rest, rfl, hp⟩
    exact ⟨f.digits, rest, by simp [Figure.chars, hb, hs], hl, hf.digits.2, hp⟩

lemma follows_date_iff :
    follows "0000-00-00".toList cs = true ↔
      ∃ d : DateText, d.HasForm (IsExact 4) (IsExact 2) ∧ d.chars = cs := by
  have hpattern : "0000-00-00".toList = List.replicate 4 '0' ++ '-' :: (List.replicate 2 '0' ++
      '-' :: (List.replicate 2 '0' ++ [])) := by decide
  simp only [hpattern, follows_figure_iff (show 0 < 4 by decide),
    follows_figure_iff (show 0 < 2 by decide), follows_cons_iff (show '-' ≠ '0' by decide),
    follows_nil_iff]
  constructor
  · rintro ⟨year, hy, _, rfl, _, rfl, month, hm, _, rfl, _, rfl, day, hd, _, rfl, rfl⟩
    exact ⟨⟨year, month, day⟩, ⟨hy, hm, hd⟩, by simp [DateText.chars]⟩
  · rintro ⟨d, ⟨hy, hm, hd⟩, rfl⟩
    exact ⟨d.year, hy, _, rfl, _, rfl, d.month, hm, _, rfl, _, rfl, d.day, hd, _,
      (List.append_nil _).symm, rfl⟩

/-- Zeros with colons between them stand for a time without its fraction. -/
lemma follows_clock_iff :
    follows "00:00:00".toList cs = true ↔
      ∃ hour minute second : Figure, hour.IsExact 2 ∧ minute.IsExact 2 ∧ second.IsExact 2 ∧
        (ClockText.mk hour minute second []).chars = cs := by
  have hpattern : "00:00:00".toList = List.replicate 2 '0' ++ ':' :: (List.replicate 2 '0' ++
      ':' :: (List.replicate 2 '0' ++ [])) := by decide
  simp only [hpattern, follows_figure_iff (show 0 < 2 by decide),
    follows_cons_iff (show ':' ≠ '0' by decide), follows_nil_iff]
  constructor
  · rintro ⟨hour, hh, _, rfl, _, rfl, minute, hm, _, rfl, _, rfl, second, hs, _, rfl, rfl⟩
    exact ⟨hour, minute, second, hh, hm, hs, by simp [ClockText.chars, fractionChars]⟩
  · rintro ⟨hour, minute, second, hh, hm, hs, rfl⟩
    exact ⟨hour, hh, _, rfl, _, rfl, minute, hm, _, rfl, _, rfl, second, hs, _, rfl, rfl⟩

lemma exists_clock_iff {clock : List Char} (hd : ∀ c ∈ ds, isDigit c = true) :
    (∃ t : ClockText, t.HasForm (IsExact 2) ∧ t.fraction = ds ∧ t.chars = clock) ↔
      ∃ cs, follows "00:00:00".toList cs = true ∧ clock = cs ++ fractionChars ds := by
  simp only [follows_clock_iff]
  constructor
  · rintro ⟨t, ⟨hh, hm, hs, -⟩, rfl, rfl⟩
    exact ⟨_, ⟨t.hour, t.minute, t.second, hh, hm, hs, rfl⟩,
      by simp [ClockText.chars, fractionChars]⟩
  · rintro ⟨_, ⟨hour, minute, second, hh, hm, hs, rfl⟩, rfl⟩
    exact ⟨⟨hour, minute, second, ds⟩, ⟨hh, hm, hs, hd⟩, rfl,
      by simp [ClockText.chars, fractionChars]⟩

lemma follows_offset_iff {sign : Char} (hs : sign ≠ '0') :
    follows (sign :: "00:00".toList) cs = true ↔
      ∃ hours minutes : Figure, hours.IsExact 2 ∧ minutes.IsExact 2 ∧
        (OffsetText.ahead sign hours minutes).chars = cs := by
  have hpattern : "00:00".toList = List.replicate 2 '0' ++ ':' :: (List.replicate 2 '0' ++ []) := by
    decide
  simp only [hpattern, follows_cons_iff hs, follows_figure_iff (show 0 < 2 by decide),
    follows_cons_iff (show ':' ≠ '0' by decide), follows_nil_iff]
  constructor
  · rintro ⟨_, rfl, hours, hh, _, rfl, _, rfl, minutes, hm, _, rfl, rfl⟩
    exact ⟨hours, minutes, hh, hm, by simp [OffsetText.chars]⟩
  · rintro ⟨hours, minutes, hh, hm, rfl⟩
    exact ⟨_, rfl, hours, hh, _, rfl, _, rfl, minutes, hm, _, (List.append_nil _).symm, rfl⟩

/-! ### Strict texts -/

/-- The strict shapes of ISO 8601: a date, a date and a time, and both with an offset, which are the
date times of RFC 3339. -/
inductive IsStrictText : List Char → Prop
  | date {day : List Char} (hday : follows "0000-00-00".toList day = true) : IsStrictText day
  | universal {day clock fraction : List Char} (hday : follows "0000-00-00".toList day = true)
      (hclock : follows "00:00:00".toList clock = true)
      (hfraction : ∀ c ∈ fraction, isDigit c = true) :
      IsStrictText (day ++ 'T' :: (clock ++ fractionChars fraction))
  | full {day clock fraction zone : List Char} {separator : Char}
      (hday : follows "0000-00-00".toList day = true)
      (hseparator : separator = 'T' ∨ separator = 't')
      (hclock : follows "00:00:00".toList clock = true)
      (hfraction : ∀ c ∈ fraction, isDigit c = true)
      (hzone : zone = ['Z'] ∨ zone = ['z'] ∨ follows "+00:00".toList zone = true ∨
        follows "-00:00".toList zone = true) :
      IsStrictText (day ++ separator :: (clock ++ fractionChars fraction ++ zone))

lemma IsStrictText.ten_le_length (h : IsStrictText cs) : 10 ≤ cs.length := by
  cases h with
  | date hday => exact (length_of_follows hday).ge
  | universal hday =>
    have hl := length_of_follows hday
    rw [List.length_append]
    exact Nat.le_add_right_of_le hl.ge
  | full hday =>
    have hl := length_of_follows hday
    rw [List.length_append]
    exact Nat.le_add_right_of_le hl.ge

/-- The sign is a plus or a hyphen. -/
def OffsetText.IsStrict : OffsetText → Prop
  | .zulu _ => True
  | .ahead sign _ _ => sign ≠ '\u2212'

/-- Every figure has its full width and nothing before it, and no blank separates a date from a
time. -/
def Timestamp.IsStrict : Timestamp → Prop
  | .full _ separator _ offset => separator ≠ ' ' ∧ offset.IsStrict
  | .universal day clock => day.HasForm (IsExact 4) (IsExact 2) ∧ clock.HasForm (IsExact 2)
  | .date day => day.HasForm (IsExact 4) (IsExact 2)

lemma strict_zone_iff {zone : List Char} :
    (zone = ['Z'] ∨ zone = ['z'] ∨ follows "+00:00".toList zone = true ∨
      follows "-00:00".toList zone = true) ↔
      ∃ o : OffsetText, o.HasForm ∧ o.IsStrict ∧ o.chars = zone := by
  have hplus : "+00:00".toList = '+' :: "00:00".toList := by decide
  have hminus : "-00:00".toList = '-' :: "00:00".toList := by decide
  rw [hplus, hminus, follows_offset_iff (by decide), follows_offset_iff (by decide)]
  constructor
  · rintro (rfl | rfl | ⟨hours, minutes, hh, hm, rfl⟩ | ⟨hours, minutes, hh, hm, rfl⟩)
    · exact ⟨.zulu 'Z', .inl rfl, trivial, rfl⟩
    · exact ⟨.zulu 'z', .inr rfl, trivial, rfl⟩
    · exact ⟨.ahead '+' hours minutes, ⟨.inl rfl, hh, hm⟩, by simp [OffsetText.IsStrict], rfl⟩
    · exact ⟨.ahead '-' hours minutes, ⟨.inr (.inl rfl), hh, hm⟩, by simp [OffsetText.IsStrict],
        rfl⟩
  · rintro ⟨o, ho, hs, rfl⟩
    cases o with
    | zulu letter =>
      obtain rfl | rfl := ho
      · exact .inl rfl
      · exact .inr (.inl rfl)
    | ahead sign hours minutes =>
      obtain ⟨rfl | rfl | rfl, hh, hm⟩ := ho
      · exact .inr (.inr (.inl ⟨hours, minutes, hh, hm, rfl⟩))
      · exact .inr (.inr (.inr ⟨hours, minutes, hh, hm, rfl⟩))
      · exact absurd rfl hs

lemma exists_of_isStrictText (h : IsStrictText cs) :
    ∃ w : Timestamp, w.HasForm ∧ w.IsStrict ∧ w.chars = cs := by
  cases h with
  | date hday =>
    obtain ⟨d, hd, rfl⟩ := follows_date_iff.1 hday
    exact ⟨.date d, hd.loose, hd, rfl⟩
  | universal hday hclock hfraction =>
    obtain ⟨d, hd, rfl⟩ := follows_date_iff.1 hday
    obtain ⟨t, ht, rfl, he⟩ := (exists_clock_iff hfraction).2 ⟨_, hclock, rfl⟩
    exact ⟨.universal d t, ⟨hd.loose, ht.loose⟩, ⟨hd, ht⟩, by rw [Timestamp.chars, he]⟩
  | full hday hseparator hclock hfraction hzone =>
    obtain ⟨d, hd, rfl⟩ := follows_date_iff.1 hday
    obtain ⟨t, ht, rfl, he⟩ := (exists_clock_iff hfraction).2 ⟨_, hclock, rfl⟩
    obtain ⟨o, ho, hs, rfl⟩ := strict_zone_iff.1 hzone
    refine ⟨.full d _ t o, ⟨hd, ?_, ht, ho⟩, ⟨?_, hs⟩, by rw [Timestamp.chars, he]⟩
    · exact hseparator.imp_right .inl
    · rintro rfl
      simp at hseparator

lemma Timestamp.isStrictText {w : Timestamp} (h : w.HasForm) (hs : w.IsStrict) :
    IsStrictText w.chars := by
  cases w with
  | full d c t o =>
    obtain ⟨hd, hc, ht, ho⟩ := h
    obtain ⟨hblank, hsign⟩ := hs
    obtain ⟨clock, hclock, he⟩ := (exists_clock_iff ht.fraction).1 ⟨t, ht, rfl, rfl⟩
    rw [chars, he]
    refine .full (follows_date_iff.2 ⟨d, hd, rfl⟩) ?_ hclock ht.fraction
      (strict_zone_iff.2 ⟨o, ho, hsign, rfl⟩)
    rcases hc with rfl | rfl | rfl
    · exact .inl rfl
    · exact .inr rfl
    · exact absurd rfl hblank
  | universal d t =>
    obtain ⟨hd, ht⟩ := hs
    obtain ⟨clock, hclock, he⟩ := (exists_clock_iff ht.fraction).1 ⟨t, ht, rfl, rfl⟩
    rw [chars, he]
    exact .universal (follows_date_iff.2 ⟨d, hd, rfl⟩) hclock ht.fraction
  | date d => exact .date (follows_date_iff.2 ⟨d, hs, rfl⟩)

/-- A text of a timestamp is strict exactly if the timestamp is. -/
lemma Timestamp.isStrictText_iff {w : Timestamp} (h : w.HasForm) :
    IsStrictText w.chars ↔ w.IsStrict := by
  constructor
  · intro hs
    obtain ⟨w', hw', hs', he⟩ := exists_of_isStrictText hs
    obtain rfl := chars_inj hw' h he
    exact hs'
  · exact isStrictText h

end Instant

namespace Query

open Instant

variable {indices : List String} {pageSize : Nat} {keepAlive field format : String}

lemma readBound_iff_timestamp (hf : format ∈ isoFormats) {bound : String} :
    (∃ millis, readBound format bound = .ok millis) ↔
      ∃ w : Timestamp, w.HasForm ∧ w.InRange ∧ w.chars = bound.toList := by
  simp only [readBound_eq_ok_iff hf]
  constructor
  · rintro ⟨_, q, ⟨w, hw, hr, hb, -⟩, -⟩
    exact ⟨w, hw, hr, hb⟩
  · rintro ⟨w, hw, hr, hb⟩
    obtain ⟨q, hq⟩ := hr.exists_denotes
    exact ⟨_, q, ⟨w, hw, hr, hb, hq⟩, rfl⟩

/-- The bounds that are accepted are the texts of timestamps. They are strict exactly if the
timestamps are. -/
theorem exists_make_iff_timestamp (hf : format ∈ isoFormats)
    (hs : IsSound indices pageSize keepAlive field) (bound : String) :
    ((∃ lte query, make indices pageSize keepAlive ⟨field, format, some bound, lte⟩ = .ok query) ↔
      ∃ w : Timestamp, w.HasForm ∧ w.InRange ∧ w.chars = bound.toList) ∧
    ((∃ gte query, make indices pageSize keepAlive ⟨field, format, gte, some bound⟩ = .ok query) ↔
      ∃ w : Timestamp, w.HasForm ∧ w.InRange ∧ w.chars = bound.toList) ∧
    ∀ w : Timestamp, w.HasForm → w.chars = bound.toList →
      (IsStrictText bound.toList ↔ w.IsStrict) := by
  simp only [exists_make_iff, checkRange_eq_ok_iff, ← readBound_iff_timestamp hf]
  refine ⟨⟨?_, ?_⟩, ⟨?_, ?_⟩, ?_⟩
  · rintro ⟨lte, -, low, high, hlow, -⟩
    exact ⟨low, hlow⟩
  · rintro ⟨low, hlow⟩
    exact ⟨none, hs, low, none, hlow, rfl, by simp⟩
  · rintro ⟨gte, -, low, high, -, hhigh, -⟩
    exact ⟨high, hhigh⟩
  · rintro ⟨high, hhigh⟩
    exact ⟨none, hs, none, high, rfl, hhigh, by simp⟩
  · intro w hw hb
    rw [← hb]
    exact Timestamp.isStrictText_iff hw

/-- A date with a month and a day of one digit each is accepted, and is not strict. -/
theorem exists_make_of_not_isStrictText :
    "strict_date" ∈ isoFormats ∧ IsSound ["logs"] 1000 "60s" "@timestamp" ∧
      (∃ lte query,
        make ["logs"] 1000 "60s" ⟨"@timestamp", "strict_date", some "2022-6-8", lte⟩ = .ok query) ∧
      ¬IsStrictText "2022-6-8".toList := by
  have hf : "strict_date" ∈ isoFormats := by decide
  have hs : IsSound ["logs"] 1000 "60s" "@timestamp" :=
    ⟨by decide, by decide, by decide, by decide, by decide⟩
  obtain ⟨hgte, -, -⟩ := exists_make_iff_timestamp hf hs "2022-6-8"
  have hread : read? "2022-6-8" = some ⟨1654646400000000000⟩ := by decide +kernel
  obtain ⟨w, hw, hr, hb, -⟩ := read?_eq_some_iff.1 hread
  exact ⟨hf, hs, hgte.2 ⟨w, hw, hr, hb⟩, fun h => absurd h.ten_le_length (by decide)⟩

end Query

end ScrollExport
