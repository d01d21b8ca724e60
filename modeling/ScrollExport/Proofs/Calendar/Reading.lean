import ScrollExport.Proofs.Calendar.Timestamp

/-!
# Reading instants

The texts that are read as instants are those of the timestamps whose values are in range, and what
is read is the instant of the timestamp (`read?_eq_some_iff`).
-/

namespace ScrollExport.Instant

open Number
open Text (dropWhile_append_of_head?)
open Figure (IsYear IsField IsExact)

variable {cs rest ds : List Char} {n : Nat}

-- About `>>=`, since `simp` goes into the rest of a parser twice at each `Option.bind`.
lemma bind_eq_some_iff {α β : Type} {x : Option α} {f : α → Option β} {b : β} :
    x >>= f = some b ↔ ∃ a, x = some a ∧ f a = some b :=
  Option.bind_eq_some_iff

/-! ### Fractions -/

lemma scanFraction_of_endsSecond (hr : EndsSecond rest) : scanFraction rest = some (0, rest) := by
  cases rest with
  | nil => rfl
  | cons c rest =>
    rw [scanFraction]
    rintro cs ⟨⟩
    exact (hr _ rfl).2 rfl

lemma takeWhile_take_nine (hd : ∀ c ∈ ds, isDigit c = true) (hr : EndsDigits rest) :
    ((ds ++ rest).take 9).takeWhile isDigit = ds.take 9 := by
  have hends : (ds.take 9).length < 9 → EndsDigits (ds.drop 9 ++ rest) := by
    intro hl
    rwa [List.drop_eq_nil_of_le (by simp at hl; omega)]
  have h := takeWhile_take_digits (fun c hc => hd c (List.mem_of_mem_take hc))
    (List.length_take_le 9 ds) hends
  rwa [← List.append_assoc, List.take_append_drop] at h

lemma scanFraction_chars (hd : ∀ c ∈ ds, isDigit c = true) (hr : EndsSecond rest) :
    scanFraction (fractionChars ds ++ rest) = some (billionths ds, rest) := by
  cases ds with
  | nil => exact scanFraction_of_endsSecond hr
  | cons c ds =>
    have htake := takeWhile_take_nine hd hr.endsDigits
    have hdrop := dropWhile_append_of_head? hd hr.endsDigits
    simp only [List.cons_append] at htake hdrop
    simp only [fractionChars, List.cons_append, scanFraction, htake, hdrop]
    rfl

lemma exists_of_scanFraction (h : scanFraction cs = some (n, rest)) :
    ∃ ds, (∀ c ∈ ds, isDigit c = true) ∧ cs = fractionChars ds ++ rest ∧ billionths ds = n := by
  rw [scanFraction.eq_def] at h
  split at h
  · rename_i cs
    obtain ⟨ds, rest', rfl, hd, -, hr⟩ := exists_digits (cs.length + 1) cs
    have hr := hr (by rw [List.length_append]; omega)
    simp only [takeWhile_take_nine hd hr, dropWhile_append_of_head? hd hr] at h
    split_ifs at h with hne
    obtain ⟨rfl, rfl⟩ := Prod.mk.inj (Option.some.inj h)
    refine ⟨ds, hd, ?_, rfl⟩
    cases ds with
    | nil => simp at hne
    | cons c ds => rfl
  · obtain ⟨rfl, rfl⟩ := Prod.mk.inj (Option.some.inj h)
    exact ⟨[], by simp, rfl, rfl⟩

/-! ### Dates -/

namespace DateText

variable {d : DateText}

lemma date?_eq_some_iff {year : Int} {month day : Nat} {date : Date} :
    date? year month day = some date ↔
      (⟨year, month, day⟩ : Date).isValid = true ∧ ⟨year, month, day⟩ = date := by
  simp only [date?, Option.ite_none_right_eq_some, Option.some.injEq]

lemma scanDate_chars (h : d.HasForm IsYear IsField) (hv : d.date.isValid = true)
    (hr : EndsDigits rest) : scanDate (d.chars ++ rest) = some (d.date, rest) := by
  have hdate := date?_eq_some_iff.2 ⟨hv, rfl⟩
  have hdash : ∀ cs, EndsDigits ('-' :: cs) := fun _ => endsDigits_cons.2 rfl
  simp [scanDate, chars, date, Figure.scanYear_chars h.year (hdash _), scanChar_eq_some_iff.2 rfl,
    Figure.scanField_chars h.month (hdash _), Figure.scanField_chars h.day hr, hdate]

lemma exists_of_scanDate {date : Date} (h : scanDate cs = some (date, rest)) :
    ∃ d : DateText, d.HasForm IsYear IsField ∧ d.date.isValid = true ∧ cs = d.chars ++ rest ∧
      d.date = date := by
  simp only [scanDate, bind_eq_some_iff, Option.some.injEq, Prod.exists, Prod.mk.injEq,
    scanChar_eq_some_iff, date?_eq_some_iff] at h
  obtain ⟨_, _, hyear, _, rfl, _, _, hmonth, _, rfl, _, _, hday, _, ⟨hv, rfl⟩, rfl, rfl⟩ := h
  obtain ⟨year, hy, rfl, rfl⟩ := Figure.exists_of_scanYear hyear
  obtain ⟨month, hm, rfl, rfl⟩ := Figure.exists_of_scanField hmonth
  obtain ⟨day, hd, rfl, rfl⟩ := Figure.exists_of_scanField hday
  exact ⟨⟨year, month, day⟩, ⟨hy, hm, hd⟩, hv, by simp [chars], rfl⟩

end DateText

/-! ### Times -/

/-- The instant of a time that is in range. A second sixty is the one after the fifty-ninth. -/
lemma exists_timeOfDay?_iff {hour minute second nanosecond : Nat} {d : Date} {offset : Int}
    {i : Instant} :
    (∃ t, timeOfDay? hour minute second nanosecond = some t ∧ ofLocal d t offset = i) ↔
      (hour ≤ 23 ∧ minute ≤ 59 ∧ second ≤ 60) ∧
        ⟨(d.dayNumber * 1440 - offset) * 60000000000 +
          (((hour * 60 + minute) * 60 + second) * 1000000000 + nanosecond : Nat)⟩ = i := by
  unfold timeOfDay?
  by_cases hrange : hour ≤ 23 ∧ minute ≤ 59 ∧ second ≤ 60
  · rw [if_neg (by omega)]
    by_cases hsixty : second = 60
    · subst hsixty
      have hnext : TimeOfDay.nanoseconds ⟨hour, minute, 59, 1000000000 + nanosecond⟩ =
          ((hour * 60 + minute) * 60 + 60) * 1000000000 + nanosecond := by
        simp only [TimeOfDay.nanoseconds]
        omega
      simp [hrange, ofLocal, hnext]
    · simp [hsixty, hrange, ofLocal, TimeOfDay.nanoseconds]
  · rw [if_pos (by omega)]
    simp [hrange]

/-! ### Offsets -/

namespace OffsetText

variable {o : OffsetText}

lemma scanOffset_chars (h : o.HasForm) (hr : o.InRange) :
    scanOffset o.chars = some (o.minutes, []) := by
  cases o with
  | zulu letter =>
    obtain rfl | rfl := h
    · rfl
    · rfl
  | ahead sign hours minutes =>
    obtain ⟨hsign, hh, hm⟩ := h
    obtain ⟨hh23, hm59⟩ := hr
    have hhours := Figure.scanNumber_chars hh (':' :: minutes.chars)
    have hminutes := Figure.scanNumber_chars hm []
    rw [List.append_nil] at hminutes
    have hrange : ¬(23 < hours.number ∨ 59 < minutes.number) := by omega
    have hletter : (sign = 'Z' → False) ∧ (sign = 'z' → False) := by
      rcases hsign with rfl | rfl | rfl <;> decide
    rw [chars, scanOffset.eq_3 _ _ hletter.1 hletter.2, if_pos hsign]
    simp [hhours, hminutes, scanChar_eq_some_iff.2 rfl, hrange, OffsetText.minutes]

lemma exists_of_scanOffset {offset : Int} (h : scanOffset cs = some (offset, rest)) :
    ∃ o : OffsetText, o.HasForm ∧ o.InRange ∧ cs = o.chars ++ rest ∧ o.minutes = offset := by
  rw [scanOffset.eq_def] at h
  split at h
  · obtain ⟨rfl, rfl⟩ := Prod.mk.inj (Option.some.inj h)
    exact ⟨.zulu 'Z', .inl rfl, trivial, rfl, rfl⟩
  · obtain ⟨rfl, rfl⟩ := Prod.mk.inj (Option.some.inj h)
    exact ⟨.zulu 'z', .inr rfl, trivial, rfl, rfl⟩
  · rename_i sign cs _ _
    by_cases hsign : sign = '+' ∨ sign = '-' ∨ sign = '\u2212'
    · rw [if_pos hsign] at h
      simp only [bind_eq_some_iff, Prod.exists, scanChar_eq_some_iff] at h
      obtain ⟨_, _, hhours, _, rfl, _, _, hminutes, h⟩ := h
      obtain ⟨hours, hh, rfl, rfl⟩ := Figure.exists_of_scanNumber (by decide) hhours
      obtain ⟨minutes, hm, rfl, rfl⟩ := Figure.exists_of_scanNumber (by decide) hminutes
      by_cases hrange : 23 < hours.number ∨ 59 < minutes.number
      · simp [hrange] at h
      · rw [if_neg hrange] at h
        obtain ⟨rfl, rfl⟩ := Prod.mk.inj (Option.some.inj h)
        exact ⟨.ahead sign hours minutes, ⟨hsign, hh, hm⟩, ⟨by omega, by omega⟩, by simp [chars],
          rfl⟩
    · rw [if_neg hsign] at h
      cases h
  · cases h

end OffsetText

/-! ### Timestamps -/

namespace Timestamp

variable {w : Timestamp}

lemma scanSeparator_eq_some_iff :
    scanSeparator cs = some rest ↔ ∃ c, (c = 'T' ∨ c = 't' ∨ c = ' ') ∧ cs = c :: rest := by
  constructor
  · intro h
    rw [scanSeparator.eq_def] at h
    split at h
    · exact ⟨'T', by simp, by rw [Option.some.inj h]⟩
    · exact ⟨'t', by simp, by rw [Option.some.inj h]⟩
    · exact ⟨' ', by simp, by rw [Option.some.inj h]⟩
    · cases h
  · rintro ⟨c, rfl | rfl | rfl, rfl⟩
    · rfl
    · rfl
    · rfl

lemma ofFull?_eq_some_iff {i : Instant} :
    ofFull? cs = some i ↔ ∃ d c t o, (full d c t o).HasForm ∧ (full d c t o).InRange ∧
      (full d c t o).chars = cs ∧ (full d c t o).instant = i := by
  simp only [ofFull?, bind_eq_some_iff, Prod.exists, Option.ite_none_left_eq_some, ne_eq, not_not,
    Option.some.injEq, scanChar_eq_some_iff, scanSeparator_eq_some_iff, DateText.date?_eq_some_iff,
    exists_timeOfDay?_iff]
  constructor
  · rintro ⟨_, _, hyear, _, rfl, _, _, hmonth, _, rfl, _, _, hday, _, ⟨c, hc, rfl⟩, _, _, hhour, _,
      rfl, _, _, hminute, _, rfl, _, _, hsecond, _, _, hfraction, _, _, hoffset, h⟩
    obtain ⟨year, hy, rfl, rfl⟩ := Figure.exists_of_scanNumber (by decide) hyear
    obtain ⟨month, hm, rfl, rfl⟩ := Figure.exists_of_scanNumber (by decide) hmonth
    obtain ⟨day, hd, rfl, rfl⟩ := Figure.exists_of_scanNumber (by decide) hday
    obtain ⟨hour, hh, rfl, rfl⟩ := Figure.exists_of_scanNumber (by decide) hhour
    obtain ⟨minute, hmin, rfl, rfl⟩ := Figure.exists_of_scanNumber (by decide) hminute
    obtain ⟨second, hs, rfl, rfl⟩ := Figure.exists_of_scanNumber (by decide) hsecond
    obtain ⟨fraction, hf, rfl, rfl⟩ := exists_of_scanFraction hfraction
    obtain ⟨offset, ho, hor, rfl, rfl⟩ := OffsetText.exists_of_scanOffset hoffset
    obtain ⟨rfl, date, ⟨hv, rfl⟩, ⟨hh23, hm59, hs60⟩, rfl⟩ := h
    rw [← hy.signed] at hv
    refine ⟨⟨year, month, day⟩, c, ⟨hour, minute, second, fraction⟩, offset,
      ⟨⟨hy, hm, hd⟩, hc, ⟨hh, hmin, hs, hf⟩, ho⟩, ⟨hv, ⟨hh23, hm59, hs60⟩, hor⟩, ?_, ?_⟩
    · simp [chars, DateText.chars, ClockText.chars]
    · rw [instant, DateText.date, hy.signed]
      rfl
  · rintro ⟨d, c, t, o, ⟨hd, hc, ht, ho⟩, ⟨hv, htr, hor⟩, rfl, rfl⟩
    have hdate : (⟨d.year.number, d.month.number, d.day.number⟩ : Date) = d.date := by
      rw [DateText.date, hd.year.signed]
    simp only [chars, DateText.chars, ClockText.chars, List.append_assoc, List.cons_append]
    exact ⟨_, _, Figure.scanNumber_chars hd.year _, _, rfl,
      _, _, Figure.scanNumber_chars hd.month _, _, rfl,
      _, _, Figure.scanNumber_chars hd.day _, _, ⟨c, hc, rfl⟩,
      _, _, Figure.scanNumber_chars ht.hour _, _, rfl,
      _, _, Figure.scanNumber_chars ht.minute _, _, rfl,
      _, _, Figure.scanNumber_chars ht.second _,
      _, _, scanFraction_chars ht.fraction ho.endsSecond,
      _, _, OffsetText.scanOffset_chars ho hor, rfl,
      _, ⟨hdate ▸ hv, hdate⟩, ⟨htr.hour_le, htr.minute_le, htr.second_le⟩, rfl⟩

lemma ofUniversal?_eq_some_iff {i : Instant} :
    ofUniversal? cs = some i ↔ ∃ d t, (universal d t).HasForm ∧ (universal d t).InRange ∧
      (universal d t).chars = cs ∧ (universal d t).instant = i := by
  simp only [ofUniversal?, bind_eq_some_iff, Prod.exists,
    Option.ite_none_left_eq_some, ne_eq, not_not, Option.some.injEq, scanChar_eq_some_iff,
    exists_timeOfDay?_iff]
  constructor
  · rintro ⟨_, _, hdate, _, rfl, _, _, hhour, _, rfl, _, _, hminute, _, rfl, _, _, hsecond, _, _,
      hfraction, h⟩
    obtain ⟨d, hd, hv, rfl, rfl⟩ := DateText.exists_of_scanDate hdate
    obtain ⟨hour, hh, rfl, rfl⟩ := Figure.exists_of_scanField hhour
    obtain ⟨minute, hm, rfl, rfl⟩ := Figure.exists_of_scanField hminute
    obtain ⟨second, hs, rfl, rfl⟩ := Figure.exists_of_scanField hsecond
    obtain ⟨fraction, hf, rfl, rfl⟩ := exists_of_scanFraction hfraction
    obtain ⟨rfl, ⟨hh23, hm59, hs60⟩, rfl⟩ := h
    refine ⟨d, ⟨hour, minute, second, fraction⟩, ⟨hd, hh, hm, hs, hf⟩, ⟨hv, hh23, hm59, hs60⟩,
      ?_, ?_⟩
    · simp [chars, ClockText.chars]
    · rw [instant, Int.sub_zero]
      rfl
  · rintro ⟨d, t, ⟨hd, ht⟩, ⟨hv, htr⟩, rfl, rfl⟩
    have hcolon : ∀ cs, EndsDigits (':' :: cs) := fun _ => endsDigits_cons.2 rfl
    have hfraction := scanFraction_chars ht.fraction endsSecond_nil
    have hsecond := Figure.scanField_chars ht.second (endsSecond_nil.fractionChars t.fraction)
    rw [List.append_nil] at hfraction hsecond
    refine ⟨_, _, DateText.scanDate_chars hd hv (endsDigits_cons.2 rfl), _, rfl,
      _, _, Figure.scanField_chars ht.hour (hcolon _), _, rfl,
      _, _, Figure.scanField_chars ht.minute (hcolon _), _, rfl,
      _, _, hsecond, _, _, hfraction, rfl, ⟨htr.hour_le, htr.minute_le, htr.second_le⟩, ?_⟩
    rw [instant, Int.sub_zero]
    rfl

lemma ofDate?_eq_some_iff {i : Instant} :
    ofDate? cs = some i ↔ ∃ d, (date d).HasForm ∧ (date d).InRange ∧ (date d).chars = cs ∧
      (date d).instant = i := by
  have hmidnight (d : DateText) : ofLocal d.date .midnight 0 = (date d).instant := by
    simp [ofLocal, instant, TimeOfDay.nanoseconds, TimeOfDay.midnight]
  simp only [ofDate?, bind_eq_some_iff, Prod.exists,
    Option.ite_none_left_eq_some, ne_eq, not_not, Option.some.injEq]
  constructor
  · rintro ⟨_, _, hdate, rfl, rfl⟩
    obtain ⟨d, hd, hv, rfl, rfl⟩ := DateText.exists_of_scanDate hdate
    exact ⟨d, hd, hv, (List.append_nil _).symm, (hmidnight d).symm⟩
  · rintro ⟨d, hd, hv, rfl, rfl⟩
    have hdate := DateText.scanDate_chars hd hv endsDigits_nil
    rw [List.append_nil] at hdate
    exact ⟨_, _, hdate, rfl, hmidnight d⟩

lemma ofFull?_eq_none (h : w.HasForm) (hw : ∀ d c t o, w ≠ full d c t o) :
    ofFull? w.chars = none := by
  refine Option.eq_none_iff_forall_ne_some.2 fun i hi => ?_
  obtain ⟨d, c, t, o, hfull, -, he, -⟩ := ofFull?_eq_some_iff.1 hi
  exact hw d c t o (chars_inj h hfull he.symm)

lemma ofUniversal?_eq_none (h : w.HasForm) (hw : ∀ d t, w ≠ universal d t) :
    ofUniversal? w.chars = none := by
  refine Option.eq_none_iff_forall_ne_some.2 fun i hi => ?_
  obtain ⟨d, t, huniversal, -, he, -⟩ := ofUniversal?_eq_some_iff.1 hi
  exact hw d t (chars_inj h huniversal he.symm)

end Timestamp

/-- A text is read if it is that of a timestamp in range, and then as the instant of it. -/
theorem read?_eq_some_iff {s : String} {i : Instant} :
    read? s = some i ↔ ∃ w : Timestamp, w.HasForm ∧ w.InRange ∧ w.chars = s.toList ∧
      w.instant = i := by
  simp only [read?, Option.orElse_eq_orElse, Option.orElse_eq_or, Option.or_eq_some_iff]
  constructor
  · rintro (hfull | ⟨-, huniversal | ⟨-, hdate⟩⟩)
    · obtain ⟨d, c, t, o, h⟩ := Timestamp.ofFull?_eq_some_iff.1 hfull
      exact ⟨_, h⟩
    · obtain ⟨d, t, h⟩ := Timestamp.ofUniversal?_eq_some_iff.1 huniversal
      exact ⟨_, h⟩
    · obtain ⟨d, h⟩ := Timestamp.ofDate?_eq_some_iff.1 hdate
      exact ⟨_, h⟩
  · rintro ⟨w, hw, hr, hs, rfl⟩
    rw [← hs]
    cases w with
    | full d c t o => exact .inl (Timestamp.ofFull?_eq_some_iff.2 ⟨d, c, t, o, hw, hr, rfl, rfl⟩)
    | universal d t =>
      have hfull := Timestamp.ofFull?_eq_none hw (by simp)
      exact .inr ⟨hfull, .inl (Timestamp.ofUniversal?_eq_some_iff.2 ⟨d, t, hw, hr, rfl, rfl⟩)⟩
    | date d =>
      have hfull := Timestamp.ofFull?_eq_none hw (by simp)
      have huniversal := Timestamp.ofUniversal?_eq_none hw (by simp)
      exact .inr ⟨hfull, .inr ⟨huniversal, Timestamp.ofDate?_eq_some_iff.2 ⟨d, hw, hr, rfl, rfl⟩⟩⟩

end ScrollExport.Instant
