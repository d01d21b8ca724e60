import ScrollExport.Proofs.Calendar.Denotation
import ScrollExport.Proofs.Results
import ScrollExport.Query

/-!
# Acceptance of queries

A query is accepted if its parts are sound and the bounds of its range are readable and in order.
In an ISO format a bound is readable if it denotes an instant, and the bounds are compared in whole
milliseconds.
-/

namespace ScrollExport.Query

open Text Instant

variable {indices : List String} {pageSize : Nat} {keepAlive : String} {range : TimeRange}
  {format bound gte lte : String} {q low high : ℚ}

/-! ### Parts -/

/-- What is asked of the parts of a query, but for the bounds of its range. -/
structure IsSound (indices : List String) (pageSize : Nat) (keepAlive field : String) : Prop where
  indices_ne_nil : indices ≠ []
  indices_named : ∀ index ∈ indices, isBlankText index = false
  pageSize_pos : 0 < pageSize
  keepAlive : isKeepAlive keepAlive = true
  field_ne : field ≠ ""

lemma make_of_isSound (h : IsSound indices pageSize keepAlive range.field) :
    make indices pageSize keepAlive range = (checkRange range).map fun _ =>
      ⟨indices, pageSize, keepAlive, range, h.indices_ne_nil, h.indices_named, h.pageSize_pos⟩ := by
  have hblank : indices.find? isBlankText = none := by
    simpa [List.find?_eq_none] using h.indices_named
  unfold make
  rw [dif_neg h.indices_ne_nil]
  split
  · rename_i hfound
    simp [hblank] at hfound
  · rw [dif_neg (Nat.pos_iff_ne_zero.1 h.pageSize_pos), if_neg (by simp [h.keepAlive]),
      if_neg h.field_ne]

/-- Unsound parts are refused before the range is looked at. -/
lemma make_of_not_isSound (h : ¬IsSound indices pageSize keepAlive range.field) :
    ∃ e, make indices pageSize keepAlive range = .error e ∧ ∀ gte lte, e ≠ .inverted gte lte := by
  unfold make
  split
  · exact ⟨_, rfl, nofun⟩
  · rename_i hne
    split
    · exact ⟨_, rfl, nofun⟩
    · rename_i hblank
      split_ifs with hsize halive hfield
      · exact ⟨_, rfl, nofun⟩
      · exact ⟨_, rfl, nofun⟩
      · exact ⟨_, rfl, nofun⟩
      · exact absurd ⟨hne, by simpa [List.find?_eq_none] using hblank, Nat.pos_of_ne_zero hsize,
          by simpa using halive, hfield⟩ h

theorem exists_make_iff :
    (∃ query, make indices pageSize keepAlive range = .ok query) ↔
      IsSound indices pageSize keepAlive range.field ∧ checkRange range = .ok () := by
  by_cases h : IsSound indices pageSize keepAlive range.field
  · rw [make_of_isSound h]
    cases checkRange range with
    | error e => simp [Except.map]
    | ok => simp [Except.map, h]
  · obtain ⟨e, he, -⟩ := make_of_not_isSound h
    simp [he, h]

/-- A query that is made has the parts that it is made of. -/
lemma parts_of_make {query : Query} (h : make indices pageSize keepAlive range = .ok query) :
    query.indices = indices ∧ query.keepAlive = keepAlive := by
  have hs : IsSound indices pageSize keepAlive range.field := (exists_make_iff.1 ⟨query, h⟩).1
  obtain ⟨-, -, rfl⟩ := map_eq_ok_iff.1 ((make_of_isSound hs).symm.trans h)
  exact ⟨rfl, rfl⟩

/-- A query is refused for the order of its bounds only if its range is. -/
lemma make_ne_inverted (h : checkRange range = .ok ()) :
    make indices pageSize keepAlive range ≠ .error (.inverted gte lte) := by
  by_cases hs : IsSound indices pageSize keepAlive range.field
  · simp [make_of_isSound hs, h, Except.map]
  · obtain ⟨e, he, hne⟩ := make_of_not_isSound hs
    simpa [he] using hne gte lte

/-! ### Ranges -/

theorem checkRange_eq_ok_iff :
    checkRange range = .ok () ↔
      ∃ gte lte, readBound? range.format range.gte = .ok gte ∧
        readBound? range.format range.lte = .ok lte ∧ ∀ low ∈ gte, ∀ high ∈ lte, low ≤ high := by
  simp only [checkRange, bind_eq_ok_iff]
  constructor
  · rintro ⟨gte, hgte, lte, hlte, h⟩
    refine ⟨gte, lte, hgte, hlte, ?_⟩
    rintro low rfl high rfl
    by_contra hlt
    simp [Int.not_le.1 hlt, throw, throwThe, MonadExceptOf.throw] at h
  · rintro ⟨gte, lte, hgte, hlte, h⟩
    refine ⟨gte, hgte, lte, hlte, ?_⟩
    cases gte with
    | none => rfl
    | some low =>
      cases lte with
      | none => rfl
      | some high => exact if_neg (Int.not_lt.2 (h low rfl high rfl))

/-! ### Bounds in ISO formats -/

lemma readBound_of_mem_isoFormats (hf : format ∈ isoFormats) :
    readBound format bound =
      if isBlankText bound then .error .emptyBound
      else (read? bound).elim (.error (.notInstant bound)) fun i => .ok (some i.milliseconds) := by
  have hmillis : format ≠ "epoch_millis" := by
    rintro rfl
    exact absurd hf (by decide)
  have hsecond : format ≠ "epoch_second" := by
    rintro rfl
    exact absurd hf (by decide)
  rw [readBound, if_neg hmillis, if_neg hsecond, if_pos hf]
  cases read? bound with
  | none => rfl
  | some i => rfl

/-- In an ISO format a bound is read as the instant it denotes, in whole milliseconds. -/
theorem readBound_eq_ok_iff (hf : format ∈ isoFormats) {millis : Option Int} :
    readBound format bound = .ok millis ↔ ∃ q, Names bound q ∧ millis = some ⌊q * 1000⌋ := by
  rw [readBound_of_mem_isoFormats hf]
  constructor
  · intro h
    by_cases hblank : isBlankText bound = true
    · simp [hblank] at h
    · rw [if_neg hblank] at h
      cases hread : read? bound with
      | none => simp [hread] at h
      | some i =>
        obtain ⟨q, hq, -, hm⟩ := exists_names_of_read? hread
        rw [hread] at h
        exact ⟨q, hq, by rw [← hm, ← Except.ok.inj h]⟩
  · rintro ⟨q, hq, rfl⟩
    obtain ⟨i, hread, hm⟩ := hq.exists_read?
    simp [hq.isBlankText_eq_false, hread, hm]

end ScrollExport.Query
