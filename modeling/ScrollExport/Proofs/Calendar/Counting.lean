import Mathlib.Logic.Function.Iterate
import Mathlib.Tactic.Ring
import ScrollExport.Calendar.Date

/-!
# Counting days

The number of a day agrees with counting from one day to the next: the days of the calendar, one
after the other, have numbers one after the other, and the first day of 1970 has the number zero.
-/

namespace ScrollExport.Date

/-! ### The calendar, day by day -/

/-- A day of the calendar, in whatever year. -/
structure IsReal (d : Date) : Prop where
  month_pos : 1 ≤ d.month
  month_le : d.month ≤ 12
  day_pos : 1 ≤ d.day
  day_le : d.day ≤ daysInMonth d.year d.month

def epoch : Date := ⟨1970, 1, 1⟩

/-- The next day of the month, or else the first of the next month, or of the next year. -/
def next (d : Date) : Date :=
  if d.day < daysInMonth d.year d.month then ⟨d.year, d.month, d.day + 1⟩
  else if d.month < 12 then ⟨d.year, d.month + 1, 1⟩
  else ⟨d.year + 1, 1, 1⟩

/-- A date is reached after this many days from the first day of 1970 on, or, if the number is
negative, the first day of 1970 is reached from the date. -/
def IsDay (d : Date) : Int → Prop
  | .ofNat n => next^[n] epoch = d
  | .negSucc n => next^[n + 1] d = epoch

variable {d d' : Date}

lemma isReal_of_isValid (h : d.isValid = true) : d.IsReal := by
  simp only [isValid, Bool.and_eq_true, decide_eq_true_eq] at h
  obtain ⟨⟨⟨⟨-, hm⟩, hm'⟩, hd⟩, hd'⟩ := h
  exact ⟨hm, hm', hd, hd'⟩

lemma isReal_epoch : epoch.IsReal :=
  ⟨by decide, by decide, by decide, by decide⟩

lemma daysInMonth_pos (year : Int) (month : Nat) : 1 ≤ daysInMonth year month := by
  unfold daysInMonth
  split
  · split <;> decide
  all_goals decide

lemma IsReal.next (h : d.IsReal) : d.next.IsReal := by
  obtain ⟨hm, hm', hd, hd'⟩ := h
  unfold Date.next
  split_ifs with hday hmonth
  · exact ⟨hm, hm', by simp, hday⟩
  · exact ⟨by simp, hmonth, le_rfl, daysInMonth_pos _ _⟩
  · exact ⟨by simp, by simp, le_rfl, daysInMonth_pos _ _⟩

/-! ### Years and months -/

lemma daysBeforeYear_succ (year : Int) :
    daysBeforeYear (year + 1) = daysBeforeYear year + if isLeap year then 366 else 365 := by
  have h4 : year / 4 = (year - 1) / 4 + if year % 4 = 0 then 1 else 0 := by split_ifs <;> omega
  have h100 : year / 100 = (year - 1) / 100 + if year % 100 = 0 then 1 else 0 := by
    split_ifs <;> omega
  have h400 : year / 400 = (year - 1) / 400 + if year % 400 = 0 then 1 else 0 := by
    split_ifs <;> omega
  have hd : year % 400 = 0 → year % 100 = 0 := by omega
  have hd' : year % 100 = 0 → year % 4 = 0 := by omega
  simp only [daysBeforeYear, isLeap, Int.add_sub_cancel, h4, h100, h400, Bool.or_eq_true,
    Bool.and_eq_true, beq_iff_eq, bne_iff_ne]
  split_ifs <;> simp_all <;> ring

lemma daysBeforeYear_mono {year year' : Int} (h : year ≤ year') :
    daysBeforeYear year ≤ daysBeforeYear year' := by
  induction year', h using Int.leInduction with
  | base => exact Int.le_refl _
  | succ year' _ ih =>
    rw [daysBeforeYear_succ]
    split_ifs <;> omega

lemma daysBeforeMonth_one (year : Int) : daysBeforeMonth year 1 = 0 := rfl

lemma daysBeforeMonth_succ (year : Int) {month : Nat} (h : 1 ≤ month) :
    daysBeforeMonth year (month + 1) = daysBeforeMonth year month + daysInMonth year month := by
  obtain ⟨n, rfl⟩ : ∃ n, month = n + 1 := ⟨month - 1, by omega⟩
  have hf : ∀ (l : List Nat) (a : Nat),
      l.foldr (fun i days => daysInMonth year (i + 1) + days) a =
        l.foldr (fun i days => daysInMonth year (i + 1) + days) 0 + a := by
    intro l a
    induction l with
    | nil => simp
    | cons i l ih => simp [ih, Nat.add_assoc]
  simp only [daysBeforeMonth, Nat.add_sub_cancel, List.range_succ, List.foldr_append]
  simpa using hf _ _

lemma daysBeforeMonth_thirteen (year : Int) :
    daysBeforeMonth year 13 = if isLeap year then 366 else 365 := by
  simp [daysBeforeMonth, List.range_succ, daysInMonth]
  split_ifs <;> rfl

lemma daysBeforeMonth_add_le (year : Int) {month month' : Nat} (hm : 1 ≤ month)
    (h : month < month') :
    daysBeforeMonth year month + daysInMonth year month ≤ daysBeforeMonth year month' := by
  induction month', h using Nat.le_induction with
  | base => exact (daysBeforeMonth_succ year hm).ge
  | succ n hn ih =>
    rw [daysBeforeMonth_succ year (by omega)]
    omega

/-- A day lies between the first days of its year and of the next. -/
lemma IsReal.dayNumber_bounds (h : d.IsReal) :
    daysBeforeYear d.year ≤ d.dayNumber + epochDay ∧
      d.dayNumber + epochDay < daysBeforeYear (d.year + 1) := by
  obtain ⟨hm, hm', hd, hd'⟩ := h
  have hy := daysBeforeYear_succ d.year
  have hlast := daysBeforeMonth_add_le d.year hm (Nat.lt_succ_of_le hm')
  rw [daysBeforeMonth_thirteen] at hlast
  unfold dayNumber
  split_ifs at hy hlast <;> omega

/-! ### Day by day -/

lemma dayNumber_epoch : epoch.dayNumber = 0 := by
  decide

lemma dayNumber_next (h : d.IsReal) : d.next.dayNumber = d.dayNumber + 1 := by
  obtain ⟨hm, hm', hd, hd'⟩ := h
  unfold Date.next
  split_ifs with hday hmonth
  · simp only [dayNumber]
    omega
  · have hs := daysBeforeMonth_succ d.year hm
    simp only [dayNumber]
    omega
  · have hm12 : d.month = 12 := by omega
    have hs := daysBeforeMonth_succ d.year hm
    have hy := daysBeforeYear_succ d.year
    have hone := daysBeforeMonth_one (d.year + 1)
    rw [hm12, daysBeforeMonth_thirteen] at hs
    rw [hm12] at hday hd'
    simp only [dayNumber, hm12, hone]
    split_ifs at hy hs <;> omega

/-- Different days have different numbers. -/
lemma eq_of_dayNumber_eq (h : d.IsReal) (h' : d'.IsReal) (hn : d.dayNumber = d'.dayNumber) :
    d = d' := by
  have hyear : d.year = d'.year := by
    obtain ⟨hb, hb'⟩ := h.dayNumber_bounds
    obtain ⟨hc, hc'⟩ := h'.dayNumber_bounds
    by_contra hne
    rcases lt_or_gt_of_ne hne with hlt | hlt
    · have := daysBeforeYear_mono (Int.add_one_le_iff.2 hlt)
      omega
    · have := daysBeforeYear_mono (Int.add_one_le_iff.2 hlt)
      omega
  obtain ⟨year, month, day⟩ := d
  obtain ⟨year', month', day'⟩ := d'
  obtain rfl : year = year' := hyear
  obtain ⟨hm, -, hd, hd'⟩ := h
  obtain ⟨hm', -, he, he'⟩ := h'
  simp only [dayNumber] at hn hm hm' hd hd' he he'
  have hmonth : month = month' := by
    by_contra hne
    rcases Nat.lt_or_gt_of_ne hne with hlt | hlt
    · have := daysBeforeMonth_add_le year hm hlt
      omega
    · have := daysBeforeMonth_add_le year hm' hlt
      omega
  subst hmonth
  have hday : day = day' := by omega
  rw [hday]

lemma IsReal.iterate (h : d.IsReal) (n : Nat) :
    (Date.next^[n] d).IsReal ∧ (Date.next^[n] d).dayNumber = d.dayNumber + n := by
  induction n with
  | zero => exact ⟨h, by simp⟩
  | succ n ih =>
    obtain ⟨hr, hn⟩ := ih
    rw [Function.iterate_succ_apply', dayNumber_next hr, hn]
    exact ⟨hr.next, by push_cast; ring⟩

/-- The number of a day counts the days from the first day of 1970 to it. -/
theorem isDay_iff (h : d.IsReal) {n : Int} : d.IsDay n ↔ d.dayNumber = n := by
  cases n with
  | ofNat n =>
    obtain ⟨hr, hn⟩ := isReal_epoch.iterate n
    rw [dayNumber_epoch, zero_add] at hn
    constructor
    · intro hd
      rw [← (show next^[n] epoch = d from hd), hn]
      rfl
    · intro hd
      exact eq_of_dayNumber_eq hr h (hn.trans hd.symm)
  | negSucc n =>
    obtain ⟨hr, hn⟩ := h.iterate (n + 1)
    constructor
    · intro hd
      rw [show next^[n + 1] d = epoch from hd, dayNumber_epoch] at hn
      omega
    · intro hd
      refine eq_of_dayNumber_eq hr isReal_epoch ?_
      rw [hn, hd, dayNumber_epoch]
      omega

/-- No day of the calendar is more than a hundred million days from 1970. -/
lemma dayNumber_bounds_of_isValid (h : d.isValid = true) :
    -100000000 < d.dayNumber ∧ d.dayNumber < 100000000 := by
  obtain ⟨hb, hb'⟩ := (isReal_of_isValid h).dayNumber_bounds
  simp only [isValid, Bool.and_eq_true, decide_eq_true_eq] at h
  simp only [firstYear, lastYear] at h
  simp only [daysBeforeYear, epochDay] at hb hb'
  omega

end ScrollExport.Date
