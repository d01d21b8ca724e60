import Mathlib.Data.List.TakeWhile
import ScrollExport.Proofs.Number.Decimal
import ScrollExport.Proofs.Query.Acceptance

/-!
# Valid queries

What a query must be to be accepted when the format of its range is not an ISO one: its parts as the
texts and numbers that are meant, and the bounds of an epoch format as integers. Bounds in any other
format are not looked at, unless they are blank.
-/

namespace ScrollExport

open Number

namespace Text

variable {s : String}

lemma trim_eq_empty_iff : trim s = "" ↔ isBlankText s = true := by
  have hcs : trimChars s.toList = [] ↔ ∀ c ∈ s.toList, isBlank c = true := by
    rw [trimChars, List.reverse_eq_nil_iff, List.dropWhile_eq_nil_iff]
    constructor
    · intro h
      rw [← List.dropWhile_eq_nil_iff]
      by_contra hne
      have hhead := List.head_dropWhile_not isBlank hne
      rw [h _ (List.mem_reverse.2 (List.head_mem hne))] at hhead
      exact absurd hhead (by decide)
    · intro h c hc
      exact h c (List.dropWhile_subset _ (List.mem_reverse.1 hc))
  rw [trim, ← String.toList_inj, String.toList_ofList, isBlankText, List.all_eq_true]
  exact hcs

lemma isBlankText_eq_false_of_writes {i : Int} (h : Writes s.toList i) :
    isBlankText s = false := by
  obtain ⟨c, hc, hb⟩ : ∃ c ∈ s.toList, isBlank c = false := by
    generalize s.toList = cs at h
    obtain ⟨hne, hd⟩ | ⟨hne, hd⟩ | ⟨hne, hd⟩ := h
    · obtain ⟨c, hc⟩ := List.exists_mem_of_ne_nil _ hne
      exact ⟨c, hc, Instant.isBlank_eq_false_of_isDigit (hd c hc)⟩
    · exact ⟨'+', List.mem_cons_self .., rfl⟩
    · exact ⟨'-', List.mem_cons_self .., rfl⟩
  rw [isBlankText, List.all_eq_false]
  exact ⟨c, hc, by simp [hb]⟩

end Text

namespace Query

open Text

variable {indices : List String} {pageSize : Nat} {keepAlive : String} {range : TimeRange}
  {format bound s : String} {bound? gte lte : Option String} {unit millis : Int}
  {result : Option Int}

/-! ### Keep-alive times -/

/-- A positive number, written in decimal without a leading zero, and a time unit after it. -/
def IsDuration (s : String) : Prop :=
  ∃ n, 0 < n ∧ ∃ unit ∈ ["d", "h", "m", "s", "ms", "micros", "nanos"], s = natText n ++ unit

theorem isKeepAlive_iff : isKeepAlive s = true ↔ IsDuration s := by
  simp only [isKeepAlive, Bool.and_eq_true, decide_eq_true_eq, List.contains_iff_mem, and_assoc]
  constructor
  · rintro ⟨hne, h0, hunit⟩
    have hd : ∀ c ∈ s.toList.takeWhile isDigit, isDigit c = true :=
      fun c hc => List.mem_takeWhile_imp hc
    have hn : natChars (ofDigits (s.toList.takeWhile isDigit)) = s.toList.takeWhile isDigit :=
      natChars_ofDigits hd hne h0
    refine ⟨ofDigits (s.toList.takeWhile isDigit), ?_, _, hunit, ?_⟩
    · rw [Nat.pos_iff_ne_zero]
      intro hz
      rw [hz] at hn
      exact h0 (congrArg List.head? hn).symm
    · rw [natText, hn, ← String.ofList_append, List.takeWhile_append_dropWhile,
        String.ofList_toList]
  · rintro ⟨n, hn, unit, hunit, rfl⟩
    have hhead : ∀ unit ∈ timeUnits, ∀ c ∈ unit.toList.head?, isDigit c = false := by
      simp [timeUnits, isDigit]
    have hds : (natText n ++ unit).toList = natChars n ++ unit.toList := by
      rw [String.toList_append, natText, String.toList_ofList]
    have hd : ∀ c ∈ natChars n, isDigit c = true := fun c hc => isDigit_of_mem_natChars hc
    rw [hds, takeWhile_append_of_head? hd (hhead unit hunit),
      dropWhile_append_of_head? hd (hhead unit hunit), String.ofList_toList]
    exact ⟨natChars_ne_nil n, head?_natChars_ne_zero (Nat.pos_iff_ne_zero.1 hn), hunit⟩

/-! ### Bounds in epoch formats -/

/-- The formats whose bounds count milliseconds, and how many of them a unit has. -/
inductive CountsIn : String → Int → Prop where
  | millis : CountsIn "epoch_millis" 1
  | second : CountsIn "epoch_second" 1000

/-- A sign, if there is one, and decimal digits, for a number of units that is a signed word in
milliseconds. -/
def IsEpoch (unit : Int) (bound : String) (millis : Int) : Prop :=
  ∃ n, Writes bound.toList n ∧ millis = n * unit ∧ -2 ^ 63 ≤ millis ∧ millis < 2 ^ 63

lemma CountsIn.pos (h : CountsIn format unit) : 0 < unit := by
  cases h <;> decide

lemma CountsIn.eq {unit' : Int} (h : CountsIn format unit) (h' : CountsIn format unit') :
    unit = unit' := by
  have hne : "epoch_millis" ≠ "epoch_second" := by decide
  generalize hs : format = format' at h'
  cases h <;> cases h'
  · rfl
  · exact absurd hs hne
  · exact absurd hs.symm hne
  · rfl

lemma epochBound?_eq_some_iff (hu : 0 < unit) :
    epochBound? bound unit = some millis ↔ IsEpoch unit bound millis := by
  simp only [epochBound?, Option.bind_eq_some_iff, signed?_eq_some_iff,
    Option.ite_none_right_eq_some, Option.some_inj, fitsSigned_iff, IsEpoch]
  constructor
  · rintro ⟨n, ⟨hn, -⟩, hfits, rfl⟩
    exact ⟨n, hn, rfl, hfits⟩
  · rintro ⟨n, hn, rfl, hlow, hhigh⟩
    -- the number itself is a word because its product with a positive unit is one
    refine ⟨n, ⟨hn, ?_, ?_⟩, ⟨hlow, hhigh⟩, rfl⟩ <;> nlinarith

lemma readBound_of_countsIn (h : CountsIn format unit) :
    readBound format bound = if isBlankText bound then .error .emptyBound
      else (epochBound? bound unit).elim (.error (.notEpoch bound)) fun m => .ok (some m) := by
  cases h with
  | millis =>
    rw [readBound, if_pos rfl]
    cases epochBound? bound 1 <;> rfl
  | second =>
    rw [readBound, if_neg (show "epoch_second" ≠ "epoch_millis" by decide), if_pos rfl]
    cases epochBound? bound 1000 <;> rfl

lemma readBound_eq_ok_iff_of_countsIn (h : CountsIn format unit) :
    readBound format bound = .ok result ↔
      ∃ millis, IsEpoch unit bound millis ∧ result = some millis := by
  simp only [← epochBound?_eq_some_iff h.pos]
  rw [readBound_of_countsIn h]
  constructor
  · intro hread
    split_ifs at hread with hblank
    cases hepoch : epochBound? bound unit with
    | none => simp [hepoch] at hread
    | some millis =>
      rw [hepoch] at hread
      exact ⟨millis, rfl, (Except.ok.inj hread).symm⟩
  · rintro ⟨millis, hepoch, rfl⟩
    obtain ⟨n, hn, -⟩ := (epochBound?_eq_some_iff h.pos).1 hepoch
    simp [isBlankText_eq_false_of_writes hn, hepoch]

/-- In any other format a bound is not read, but a blank one is refused. -/
lemma readBound_eq_ok_iff_of_unread (hf : format ∉ isoFormats)
    (hu : ∀ unit, ¬CountsIn format unit) :
    readBound format bound = .ok result ↔ isBlankText bound = false ∧ result = none := by
  have hmillis : format ≠ "epoch_millis" := by
    rintro rfl
    exact hu 1 .millis
  have hsecond : format ≠ "epoch_second" := by
    rintro rfl
    exact hu 1000 .second
  rw [readBound, if_neg hmillis, if_neg hsecond, if_neg hf]
  cases isBlankText bound <;> simp [eq_comm]

/-! ### Validity -/

/-- Bounds that count units, the lower one not above the upper one. -/
structure IsEpochRange (unit : Int) (gte lte : Option String) : Prop where
  exists_gte : ∀ bound ∈ gte, ∃ millis, IsEpoch unit bound millis
  exists_lte : ∀ bound ∈ lte, ∃ millis, IsEpoch unit bound millis
  le : ∀ low ∈ gte, ∀ high ∈ lte, ∀ m n, Writes low.toList m → Writes high.toList n → m ≤ n

/-- What is asked of a query whose range is not in an ISO format. -/
structure IsValid (indices : List String) (pageSize : Nat) (keepAlive : String)
    (range : TimeRange) : Prop where
  indices_ne_nil : indices ≠ []
  indices_named : ∀ index ∈ indices, trim index ≠ ""
  pageSize_pos : 1 ≤ pageSize
  keepAlive : IsDuration keepAlive
  field_ne : range.field ≠ ""
  gte_named : ∀ bound ∈ range.gte, trim bound ≠ ""
  lte_named : ∀ bound ∈ range.lte, trim bound ≠ ""
  epoch : ∀ unit, CountsIn range.format unit → IsEpochRange unit range.gte range.lte

lemma trim_ne_empty_iff : trim s ≠ "" ↔ isBlankText s = false := by
  rw [ne_eq, trim_eq_empty_iff, Bool.not_eq_true]

lemma isValid_iff :
    IsValid indices pageSize keepAlive range ↔
      IsSound indices pageSize keepAlive range.field ∧
        (∀ bound ∈ range.gte, isBlankText bound = false) ∧
        (∀ bound ∈ range.lte, isBlankText bound = false) ∧
        ∀ unit, CountsIn range.format unit → IsEpochRange unit range.gte range.lte := by
  simp only [← trim_ne_empty_iff]
  constructor
  · intro h
    exact ⟨⟨h.indices_ne_nil, fun index hi => trim_ne_empty_iff.1 (h.indices_named index hi),
      h.pageSize_pos, isKeepAlive_iff.2 h.keepAlive, h.field_ne⟩, h.gte_named, h.lte_named, h.epoch⟩
  · rintro ⟨h, hgte, hlte, hepoch⟩
    exact ⟨h.indices_ne_nil, fun index hi => trim_ne_empty_iff.2 (h.indices_named index hi),
      h.pageSize_pos, isKeepAlive_iff.1 h.keepAlive, h.field_ne, hgte, hlte, hepoch⟩

lemma IsEpoch.le_iff {low high : String} {a b m n : Int} (hu : 0 < unit) (ha : IsEpoch unit low a)
    (hb : IsEpoch unit high b) (hm : Writes low.toList m) (hn : Writes high.toList n) :
    a ≤ b ↔ m ≤ n := by
  obtain ⟨m', hm', rfl, -⟩ := ha
  obtain ⟨n', hn', rfl, -⟩ := hb
  rw [hm'.eq hm, hn'.eq hn]
  exact Int.mul_le_mul_iff_of_pos_right hu

/-- A bound in an epoch format is read as the milliseconds that it counts. -/
lemma exists_epoch_of_readBound? (h : CountsIn format unit)
    (hread : readBound? format bound? = .ok result) :
    ∀ bound ∈ bound?, ∃ millis, IsEpoch unit bound millis ∧ result = some millis := by
  rintro bound rfl
  exact (readBound_eq_ok_iff_of_countsIn h).1 hread

lemma exists_readBound?_of_epoch (h : CountsIn format unit)
    (hepoch : ∀ bound ∈ bound?, ∃ millis, IsEpoch unit bound millis) :
    ∃ result, readBound? format bound? = .ok result ∧
      ∀ millis ∈ result, ∃ bound ∈ bound?, IsEpoch unit bound millis := by
  cases bound? with
  | none => exact ⟨none, rfl, nofun⟩
  | some bound =>
    obtain ⟨millis, hmillis⟩ := hepoch bound rfl
    refine ⟨some millis, (readBound_eq_ok_iff_of_countsIn h).2 ⟨millis, hmillis, rfl⟩, ?_⟩
    rintro _ ⟨⟩
    exact ⟨bound, rfl, hmillis⟩

lemma checkRange_eq_ok_iff_of_countsIn (h : CountsIn range.format unit) :
    checkRange range = .ok () ↔ IsEpochRange unit range.gte range.lte := by
  rw [checkRange_eq_ok_iff]
  constructor
  · rintro ⟨gte, lte, hgte, hlte, hle⟩
    have hlow := exists_epoch_of_readBound? h hgte
    have hhigh := exists_epoch_of_readBound? h hlte
    refine ⟨fun bound hb => (hlow bound hb).imp fun _ hm => hm.1,
      fun bound hb => (hhigh bound hb).imp fun _ hm => hm.1, ?_⟩
    intro low hl high hh m n hm hn
    obtain ⟨a, ha, rfl⟩ := hlow low hl
    obtain ⟨b, hb, rfl⟩ := hhigh high hh
    exact (ha.le_iff h.pos hb hm hn).1 (hle a rfl b rfl)
  · intro hrange
    obtain ⟨gte, hgte, hlow⟩ := exists_readBound?_of_epoch h hrange.exists_gte
    obtain ⟨lte, hlte, hhigh⟩ := exists_readBound?_of_epoch h hrange.exists_lte
    refine ⟨gte, lte, hgte, hlte, ?_⟩
    intro a ha b hb
    obtain ⟨low, hl, hla⟩ := hlow a ha
    obtain ⟨high, hh, hhb⟩ := hhigh b hb
    obtain ⟨m, hm, -⟩ := id hla
    obtain ⟨n, hn, -⟩ := id hhb
    exact (hla.le_iff h.pos hhb hm hn).2 (hrange.le low hl high hh m n hm hn)

lemma readBound?_eq_ok_iff_of_unread (hf : format ∉ isoFormats)
    (hu : ∀ unit, ¬CountsIn format unit) :
    readBound? format bound? = .ok result ↔
      (∀ bound ∈ bound?, isBlankText bound = false) ∧ result = none := by
  cases bound? with
  | none =>
    constructor
    · rintro ⟨⟩
      exact ⟨nofun, rfl⟩
    · rintro ⟨-, rfl⟩
      rfl
  | some bound =>
    simpa only [readBound?, Option.mem_some_iff, forall_eq']
      using readBound_eq_ok_iff_of_unread hf hu

lemma checkRange_eq_ok_iff_of_unread (hf : range.format ∉ isoFormats)
    (hu : ∀ unit, ¬CountsIn range.format unit) :
    checkRange range = .ok () ↔
      (∀ bound ∈ range.gte, isBlankText bound = false) ∧
        ∀ bound ∈ range.lte, isBlankText bound = false := by
  simp only [checkRange_eq_ok_iff, readBound?_eq_ok_iff_of_unread hf hu]
  constructor
  · rintro ⟨-, -, ⟨hgte, -⟩, ⟨hlte, -⟩, -⟩
    exact ⟨hgte, hlte⟩
  · rintro ⟨hgte, hlte⟩
    exact ⟨none, none, ⟨hgte, rfl⟩, ⟨hlte, rfl⟩, nofun⟩

lemma isBlankText_eq_false_of_epoch
    (h : ∀ bound ∈ bound?, ∃ millis, IsEpoch unit bound millis) :
    ∀ bound ∈ bound?, isBlankText bound = false := by
  intro bound hb
  obtain ⟨-, n, hn, -⟩ := h bound hb
  exact isBlankText_eq_false_of_writes hn

/-- When the format of the range is not an ISO one, a query is accepted exactly if it is valid, and
it holds what it was made of. -/
theorem exists_make_iff_isValid (hf : range.format ∉ isoFormats) :
    ((∃ query, make indices pageSize keepAlive range = .ok query) ↔
      IsValid indices pageSize keepAlive range) ∧
    ∀ query, make indices pageSize keepAlive range = .ok query →
      query.indices = indices ∧ query.pageSize = pageSize ∧ query.keepAlive = keepAlive ∧
        query.range = range := by
  constructor
  · rw [exists_make_iff, isValid_iff]
    refine and_congr_right fun _ => ?_
    by_cases hu : ∀ unit, ¬CountsIn range.format unit
    · rw [checkRange_eq_ok_iff_of_unread hf hu]
      constructor
      · rintro ⟨hgte, hlte⟩
        exact ⟨hgte, hlte, fun unit hc => absurd hc (hu unit)⟩
      · rintro ⟨hgte, hlte, -⟩
        exact ⟨hgte, hlte⟩
    · obtain ⟨unit, hc⟩ := not_forall_not.1 hu
      rw [checkRange_eq_ok_iff_of_countsIn hc]
      constructor
      · intro hrange
        refine ⟨isBlankText_eq_false_of_epoch hrange.exists_gte,
          isBlankText_eq_false_of_epoch hrange.exists_lte, fun unit' hc' => ?_⟩
        rwa [hc'.eq hc]
      · rintro ⟨-, -, hrange⟩
        exact hrange unit hc
  · intro query hmake
    have hs := (exists_make_iff.1 ⟨query, hmake⟩).1
    rw [make_of_isSound hs, map_eq_ok_iff] at hmake
    obtain ⟨-, -, rfl⟩ := hmake
    exact ⟨rfl, rfl, rfl, rfl⟩

/-- Bounds of one word of milliseconds in all: a second more is refused. -/
theorem exists_make_of_widest_seconds :
    "epoch_second" ∉ isoFormats ∧
      (∃ query, make ["logs"] 1 "10micros" ⟨"@timestamp", "epoch_second",
        some "-9223372036854775", some "+9223372036854775"⟩ = .ok query) ∧
      ¬∃ query, make ["logs"] 1 "10micros" ⟨"@timestamp", "epoch_second",
        none, some "9223372036854776"⟩ = .ok query := by
  have hf : "epoch_second" ∉ isoFormats := by decide
  have hlow : IsEpoch 1000 "-9223372036854775" (-9223372036854775000) :=
    (epochBound?_eq_some_iff (by decide)).1 (by decide +kernel)
  have hhigh : IsEpoch 1000 "+9223372036854775" 9223372036854775000 :=
    (epochBound?_eq_some_iff (by decide)).1 (by decide +kernel)
  have hover : epochBound? "9223372036854776" 1000 = none := by decide +kernel
  refine ⟨hf, (exists_make_iff_isValid hf).1.2 ?_, fun hmake => ?_⟩
  · exact
      { indices_ne_nil := by decide
        indices_named := by decide
        pageSize_pos := by decide
        keepAlive := ⟨10, by decide, "micros", by decide, by decide +kernel⟩
        field_ne := by decide
        gte_named := by decide
        lte_named := by decide
        epoch := by
          rintro unit hc
          rw [hc.eq .second]
          exact ⟨fun _ hb => ⟨_, Option.mem_some_iff.1 hb ▸ hlow⟩,
            fun _ hb => ⟨_, Option.mem_some_iff.1 hb ▸ hhigh⟩, by
              rintro _ ⟨⟩ _ ⟨⟩ m n hm hn
              exact (hlow.le_iff (by decide) hhigh hm hn).1 (by decide)⟩ }
  · have hvalid := (exists_make_iff_isValid hf).1.1 hmake
    obtain ⟨millis, hmillis⟩ := (hvalid.epoch 1000 .second).exists_lte _ rfl
    rw [← epochBound?_eq_some_iff (by decide), hover] at hmillis
    exact absurd hmillis (by simp)

end Query

end ScrollExport
