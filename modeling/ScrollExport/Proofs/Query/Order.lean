import ScrollExport.Proofs.Query.Acceptance

/-!
# The order of range bounds

The bounds of a range in an ISO format are compared in milliseconds, rounded down. A range in order
is never refused for its order, and a range that is accepted is in order unless both bounds lie in
the same millisecond.
-/

namespace ScrollExport.Query

open Number Instant

variable {indices : List String} {pageSize : Nat} {keepAlive field format gte lte : String}
  {low high : ℚ}

/-- Two instants that are in order stay so in milliseconds. The converse holds but for those of one
millisecond. -/
lemma floor_le_floor_iff :
    ⌊low * 1000⌋ ≤ ⌊high * 1000⌋ ↔ low ≤ high ∨ ⌊low * 1000⌋ = ⌊high * 1000⌋ := by
  constructor
  · intro h
    rcases le_or_gt low high with hle | hlt
    · exact .inl hle
    · exact .inr (le_antisymm h (Int.floor_le_floor (by linarith)))
  · rintro (h | h)
    · exact Int.floor_le_floor (by linarith)
    · exact h.le

lemma checkRange_iso_iff (hf : format ∈ isoFormats) :
    checkRange ⟨field, format, some gte, some lte⟩ = .ok () ↔
      ∃ low high, Names gte low ∧ Names lte high ∧
        (low ≤ high ∨ ⌊low * 1000⌋ = ⌊high * 1000⌋) := by
  simp only [checkRange_eq_ok_iff, readBound?, readBound_eq_ok_iff hf]
  constructor
  · rintro ⟨_, _, ⟨low, hlow, rfl⟩, ⟨high, hhigh, rfl⟩, h⟩
    exact ⟨low, high, hlow, hhigh, floor_le_floor_iff.1 (h _ rfl _ rfl)⟩
  · rintro ⟨low, high, hlow, hhigh, h⟩
    refine ⟨_, _, ⟨low, hlow, rfl⟩, ⟨high, hhigh, rfl⟩, ?_⟩
    rintro _ ⟨⟩ _ ⟨⟩
    exact floor_le_floor_iff.2 h

/-- A range of instants is accepted if the lower one is not after the upper one, or if it is after
it in the same millisecond. -/
theorem exists_make_iff_le_or_same_millisecond (hf : format ∈ isoFormats) :
    (∃ query, make indices pageSize keepAlive ⟨field, format, some gte, some lte⟩ = .ok query) ↔
      IsSound indices pageSize keepAlive field ∧
        ∃ low high, Names gte low ∧ Names lte high ∧
          (low ≤ high ∨ ⌊low * 1000⌋ = ⌊high * 1000⌋) := by
  rw [exists_make_iff, checkRange_iso_iff hf]

/-- The end of a range may lie 800 microseconds before its start. -/
theorem exists_make_of_same_millisecond :
    "strict_date_optional_time_nanos" ∈ isoFormats ∧
      ∃ low high, Names "2022-06-08T00:00:00.0009Z" low ∧ Names "2022-06-08T00:00:00.0001Z" high ∧
        ⌊high * 1000000000⌋ < ⌊low * 1000000000⌋ ∧
        ∃ query, make ["logs"] 1000 "60s"
          ⟨"@timestamp", "strict_date_optional_time_nanos", some "2022-06-08T00:00:00.0009Z",
            some "2022-06-08T00:00:00.0001Z"⟩ = .ok query := by
  have hf : "strict_date_optional_time_nanos" ∈ isoFormats := by decide
  have hgte : read? "2022-06-08T00:00:00.0009Z" = some ⟨1654646400000900000⟩ := by decide +kernel
  have hlte : read? "2022-06-08T00:00:00.0001Z" = some ⟨1654646400000100000⟩ := by decide +kernel
  obtain ⟨low, hlow, hlown, hlowm⟩ := exists_names_of_read? hgte
  obtain ⟨high, hhigh, hhighn, hhighm⟩ := exists_names_of_read? hlte
  refine ⟨hf, low, high, hlow, hhigh, ?_, (exists_make_iff_le_or_same_millisecond hf).2
    ⟨⟨by decide, by decide, by decide, by decide, by decide⟩, low, high, hlow, hhigh, .inr ?_⟩⟩
  · rw [← hlown, ← hhighn]
    decide
  · rw [← hlowm, ← hhighm]
    decide

/-- Bounds that are read denote one instant each and are compared in its milliseconds, rounded down,
which fit a signed word. If the instants are in order then no query is refused for their order. -/
theorem make_ne_inverted_of_le (hf : format ∈ isoFormats) {i j : Instant}
    (hgte : read? gte = some i) (hlte : read? lte = some j) :
    (∃! low, Names gte low) ∧ (∃! high, Names lte high) ∧
      ∀ low high, Names gte low → Names lte high →
        readBound format gte = .ok (some ⌊low * 1000⌋) ∧
        readBound format lte = .ok (some ⌊high * 1000⌋) ∧
        fitsSigned ⌊low * 1000⌋ = true ∧ fitsSigned ⌊high * 1000⌋ = true ∧
        (low ≤ high → ∀ indices pageSize keepAlive field gte' lte',
          make indices pageSize keepAlive ⟨field, format, some gte, some lte⟩ ≠
            .error (.inverted gte' lte')) := by
  obtain ⟨low, hlow, -⟩ := exists_names_of_read? hgte
  obtain ⟨high, hhigh, -⟩ := exists_names_of_read? hlte
  refine ⟨⟨low, hlow, fun _ h => h.eq hlow⟩, ⟨high, hhigh, fun _ h => h.eq hhigh⟩, ?_⟩
  intro low high hlow hhigh
  refine ⟨(readBound_eq_ok_iff hf).2 ⟨low, hlow, rfl⟩,
    (readBound_eq_ok_iff hf).2 ⟨high, hhigh, rfl⟩, hlow.fitsSigned_milliseconds,
    hhigh.fitsSigned_milliseconds, ?_⟩
  intro hle indices pageSize keepAlive field gte' lte'
  exact make_ne_inverted ((checkRange_iso_iff hf).2 ⟨low, high, hlow, hhigh, .inl hle⟩)

/-- The last tenth of a millisecond before 1970 is read as the millisecond before it. -/
theorem make_ne_inverted_before_epoch :
    "strict_date_optional_time" ∈ isoFormats ∧
      read? "1969-12-31" = some ⟨-86400000000000⟩ ∧
      read? "1970-01-01T00:59:59.9999+01:00" = some ⟨-100000⟩ ∧
      readBound "strict_date_optional_time" "1970-01-01T00:59:59.9999+01:00" = .ok (some (-1)) ∧
      make ["logs"] 1000 "60s"
        ⟨"@timestamp", "strict_date_optional_time", some "1969-12-31",
          some "1970-01-01T00:59:59.9999+01:00"⟩ ≠
        .error (.inverted "1969-12-31" "1970-01-01T00:59:59.9999+01:00") := by
  have hf : "strict_date_optional_time" ∈ isoFormats := by decide
  have hgte : read? "1969-12-31" = some ⟨-86400000000000⟩ := by decide +kernel
  have hlte : read? "1970-01-01T00:59:59.9999+01:00" = some ⟨-100000⟩ := by decide +kernel
  obtain ⟨low, hlow, hlown, -⟩ := exists_names_of_read? hgte
  obtain ⟨high, hhigh, hhighn, hhighm⟩ := exists_names_of_read? hlte
  have hle : low ≤ high := by
    by_contra hlt
    have hfloor := Int.floor_le_floor (show high * 1000000000 ≤ low * 1000000000 by linarith)
    rw [← hlown, ← hhighn] at hfloor
    exact absurd hfloor (by decide)
  obtain ⟨-, -, h⟩ := make_ne_inverted_of_le hf hgte hlte
  obtain ⟨-, hread, -, -, hne⟩ := h low high hlow hhigh
  rw [← hhighm] at hread
  exact ⟨hf, hgte, hlte, hread, hne hle _ _ _ _ _ _⟩

end ScrollExport.Query
