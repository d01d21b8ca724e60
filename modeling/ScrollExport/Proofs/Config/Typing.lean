import ScrollExport.Config.Override
import ScrollExport.Proofs.Number.Decimal
import ScrollExport.Proofs.Text.Span

/-!
# Types of texts

What a text spells: a binary number in decimal or by name, or a scalar of the first type that fits,
a boolean, a whole number, a binary number or the text itself. Each is what the text is read as
(`FloatText.read?_eq_some_iff`, `Scalar.ofText_eq_iff`).
-/

namespace ScrollExport.Config

open Number
open Text (takeWhile_append_of_head? dropWhile_append_of_head?)

namespace FloatText

variable {cs whole fraction : List Char} {c : Char} {e : Int} {negative : Bool} {s : String}
  {x : Binary64}

/-! ### Decimals -/

/-- Nothing, or a mark and a power of ten. -/
inductive SpellsExponent : List Char → Int → Prop where
  | none : SpellsExponent [] 0
  | some {c : Char} {cs : List Char} {e : Int} (hc : c = 'e' ∨ c = 'E') (h : Writes cs e) :
    SpellsExponent (c :: cs) e

/-- Digits, and a power of ten that they are multiplied by; a point may stand before, among or after
the digits. -/
inductive SpellsDecimal (negative : Bool) : List Char → Binary64 → Prop where
  | whole {whole exponent : List Char} {e : Int} (hw : ∀ c ∈ whole, isDigit c = true)
    (hne : whole ≠ []) (he : SpellsExponent exponent e) :
    SpellsDecimal negative (whole ++ exponent) (.ofDecimal negative (ofDigits whole) e)
  | point {whole fraction exponent : List Char} {e : Int} (hw : ∀ c ∈ whole, isDigit c = true)
    (hf : ∀ c ∈ fraction, isDigit c = true) (hne : whole ++ fraction ≠ [])
    (he : SpellsExponent exponent e) :
    SpellsDecimal negative (whole ++ '.' :: (fraction ++ exponent))
      (.ofDecimal negative (ofDigits (whole ++ fraction)) (e - fraction.length))

lemma exponent?_cons (hc : c = 'e' ∨ c = 'E') : exponent? (c :: cs) = some e ↔ Writes cs e := by
  rw [exponent?, if_pos hc, writes_iff]
  obtain ⟨negative, ds⟩ := splitSign cs
  dsimp only
  cases nat? ds <;> simp [eq_comm]

lemma exponent?_eq_some_iff : exponent? cs = some e ↔ SpellsExponent cs e := by
  constructor
  · intro h
    cases cs with
    | nil =>
      obtain rfl : 0 = e := Option.some.inj h
      exact .none
    | cons c cs =>
      by_cases hc : c = 'e' ∨ c = 'E'
      · exact .some hc ((exponent?_cons hc).1 h)
      · rw [exponent?, if_neg hc] at h
        cases h
  · rintro (_ | ⟨hc, hw⟩)
    · rfl
    · exact (exponent?_cons hc).2 hw

lemma SpellsExponent.head? (h : SpellsExponent cs e) :
    ∀ c ∈ cs.head?, isDigit c = false ∧ c ≠ '.' := by
  rintro c hc
  rcases h with _ | ⟨rfl | rfl, -⟩
  · cases hc
  · obtain rfl : 'e' = c := Option.some.inj hc
    decide
  · obtain rfl : 'E' = c := Option.some.inj hc
    decide

lemma decimal?_whole (h : ∀ rest, cs.dropWhile isDigit ≠ '.' :: rest) :
    decimal? negative cs = if cs.takeWhile isDigit = [] then none else
      (exponent? (cs.dropWhile isDigit)).map
        (.ofDecimal negative (ofDigits (cs.takeWhile isDigit))) := by
  simp [decimal?]

lemma decimal?_point {rest : List Char} (h : cs.dropWhile isDigit = '.' :: rest) :
    decimal? negative cs = if cs.takeWhile isDigit ++ rest.takeWhile isDigit = [] then none else
      (exponent? (rest.dropWhile isDigit)).map fun e =>
        .ofDecimal negative (ofDigits (cs.takeWhile isDigit ++ rest.takeWhile isDigit))
          (e - (rest.takeWhile isDigit).length) := by
  simp only [decimal?, h]

lemma decimal?_eq_some_iff : decimal? negative cs = some x ↔ SpellsDecimal negative cs x := by
  constructor
  · intro h
    have hw : ∀ c ∈ cs.takeWhile isDigit, isDigit c = true := fun c hc => List.mem_takeWhile_imp hc
    have hcs := List.takeWhile_append_dropWhile (p := isDigit) (l := cs)
    by_cases hpoint : ∃ rest, cs.dropWhile isDigit = '.' :: rest
    · obtain ⟨rest, hrest⟩ := hpoint
      have hf : ∀ c ∈ rest.takeWhile isDigit, isDigit c = true :=
        fun c hc => List.mem_takeWhile_imp hc
      rw [decimal?_point hrest] at h
      split_ifs at h with hne
      obtain ⟨e, he, rfl⟩ := Option.map_eq_some_iff.1 h
      have hs := @SpellsDecimal.point negative _ _ _ _ hw hf hne (exponent?_eq_some_iff.1 he)
      rwa [List.takeWhile_append_dropWhile, ← hrest, hcs] at hs
    · rw [decimal?_whole (not_exists.1 hpoint)] at h
      split_ifs at h with hne
      obtain ⟨e, he, rfl⟩ := Option.map_eq_some_iff.1 h
      have hs := @SpellsDecimal.whole negative _ _ _ hw hne (exponent?_eq_some_iff.1 he)
      rwa [hcs] at hs
  · rintro (⟨hw, hne, he⟩ | ⟨hw, hf, hne, he⟩)
    · have hd := fun c hc => (he.head? c hc).1
      rw [decimal?_whole, takeWhile_append_of_head? hw hd, dropWhile_append_of_head? hw hd,
        if_neg hne, exponent?_eq_some_iff.2 he, Option.map_some]
      rw [dropWhile_append_of_head? hw hd]
      rintro rest rfl
      exact (he.head? '.' rfl).2 rfl
    · have hd := fun c hc => (he.head? c hc).1
      have hpoint : ∀ cs, ∀ c ∈ ('.' :: cs).head?, isDigit c = false := by
        rintro cs c ⟨⟩
        decide
      rw [decimal?_point (dropWhile_append_of_head? hw (hpoint _)),
        takeWhile_append_of_head? hw (hpoint _), takeWhile_append_of_head? hf hd,
        dropWhile_append_of_head? hf hd, if_neg hne, exponent?_eq_some_iff.2 he, Option.map_some]

/-! ### Names and signs -/

/-- The name of an infinity or of the value that is no number, in any case, or a decimal. -/
inductive SpellsUnsigned (negative : Bool) (cs : List Char) : Binary64 → Prop where
  | infinite (h : lowered cs = "inf" ∨ lowered cs = "infinity") :
    SpellsUnsigned negative cs (.infinite negative)
  | nan (h : lowered cs = "nan") : SpellsUnsigned negative cs .nan
  | decimal {x : Binary64} (h : SpellsDecimal negative cs x) : SpellsUnsigned negative cs x

/-- A sign, if there is one, and what it is the sign of. -/
inductive Spells : List Char → Binary64 → Prop where
  | unsigned {cs : List Char} {x : Binary64} (h : SpellsUnsigned false cs x) : Spells cs x
  | plus {cs : List Char} {x : Binary64} (h : SpellsUnsigned false cs x) : Spells ('+' :: cs) x
  | minus {cs : List Char} {x : Binary64} (h : SpellsUnsigned true cs x) : Spells ('-' :: cs) x

/-- A name starts with a letter. -/
lemma lowered_ne_of_head? (hc : c ∈ cs.head?) (hlt : c.toNat < 65) {name : String}
    (hn : name ∈ ["inf", "infinity", "nan"]) : lowered cs ≠ name := by
  have hletter : ∀ name ∈ ["inf", "infinity", "nan"], ∀ d ∈ name.toList.head?, 65 ≤ d.toNat := by
    simp
  have hlower : c.toLower = c := dif_neg fun h => absurd (UInt32.le_iff_toNat_le.1 h.1) (by
    simpa using hlt)
  rintro rfl
  have hd := hletter _ hn c (by
    rw [lowered, String.toList_ofList, List.head?_map, Option.mem_def.1 hc, Option.map_some, hlower]
    rfl)
  omega

lemma SpellsDecimal.exists_head? (h : SpellsDecimal negative cs x) :
    ∃ c ∈ cs.head?, c.toNat < 65 ∧ c ≠ '+' ∧ c ≠ '-' := by
  obtain ⟨c, hc, hd⟩ : ∃ c ∈ cs.head?, isDigit c = true ∨ c = '.' := by
    obtain ⟨hw, hne, -⟩ | @⟨whole, -, -, -, hw, -, -, -⟩ := h
    · obtain ⟨c, ds, rfl⟩ := List.exists_cons_of_ne_nil hne
      exact ⟨c, rfl, .inl (hw c (List.mem_cons_self ..))⟩
    · cases whole with
      | nil => exact ⟨'.', rfl, .inr rfl⟩
      | cons c ds => exact ⟨c, rfl, .inl (hw c (List.mem_cons_self ..))⟩
  refine ⟨c, hc, ?_⟩
  rcases hd with hd | rfl
  · have hn := toNat_of_isDigit hd
    refine ⟨by omega, ?_, ?_⟩ <;> rintro rfl <;> exact absurd hd (by decide)
  · decide

/-- What is spelled without a sign does not start with one. -/
lemma SpellsUnsigned.head?_ne (h : SpellsUnsigned negative cs x) :
    cs.head? ≠ some '+' ∧ cs.head? ≠ some '-' := by
  have hname : ∀ name ∈ ["inf", "infinity", "nan"], lowered cs = name →
      cs.head? ≠ some '+' ∧ cs.head? ≠ some '-' := fun name hn hl =>
    ⟨fun hc => lowered_ne_of_head? hc (by decide) hn hl,
      fun hc => lowered_ne_of_head? hc (by decide) hn hl⟩
  rcases h with (h | h) | h | h
  · exact hname _ (by decide) h
  · exact hname _ (by decide) h
  · exact hname _ (by decide) h
  · obtain ⟨c, hc, -, hplus, hminus⟩ := h.exists_head?
    rw [Option.mem_def.1 hc]
    exact ⟨fun he => hplus (Option.some.inj he), fun he => hminus (Option.some.inj he)⟩

lemma spells_iff : Spells cs x ↔ SpellsUnsigned (splitSign cs).1 (splitSign cs).2 x := by
  constructor
  · rintro (h | h | h)
    · obtain ⟨hplus, hminus⟩ := h.head?_ne
      have hs : splitSign cs = (false, cs) := by
        rw [splitSign.eq_3]
        · rintro ds rfl
          exact hminus rfl
        · rintro ds rfl
          exact hplus rfl
      rwa [hs]
    · exact h
    · exact h
  · fun_cases splitSign cs with
    | case1 ds => exact .minus
    | case2 ds => exact .plus
    | case3 ds => exact .unsigned

theorem read?_eq_some_iff : read? s = some x ↔ Spells s.toList x := by
  rw [spells_iff, read?]
  generalize splitSign s.toList = p
  obtain ⟨negative, cs⟩ := p
  dsimp only
  constructor
  · intro h
    split_ifs at h with hinf hnan
    · obtain rfl := Option.some.inj h
      exact .infinite hinf
    · obtain rfl := Option.some.inj h
      exact .nan hnan
    · exact .decimal (decimal?_eq_some_iff.1 h)
  · rintro (h | h | h)
    · rw [if_pos h]
    · rw [if_neg (by simp [h]), if_pos h]
    · obtain ⟨c, hc, hlt, -⟩ := h.exists_head?
      have hne : ∀ name ∈ ["inf", "infinity", "nan"], lowered cs ≠ name :=
        fun _ hn => lowered_ne_of_head? hc hlt hn
      rw [if_neg (by simp [hne]), if_neg (hne _ (by decide)), decimal?_eq_some_iff.2 h]

end FloatText

/-! ### Scalars -/

/-- The scalar of the first type that a text has a spelling of, or else the text itself. -/
inductive HasType (s : String) : Scalar → Prop where
  | true (h : s = "true") : HasType s (.bool true)
  | false (h : s = "false") : HasType s (.bool false)
  | int {i : Int} (h : Writes s.toList i) (hlow : -2 ^ 63 ≤ i) (hhigh : i < 2 ^ 63) :
    HasType s (.int i)
  | float {x : Binary64} (hi : ∀ i, Writes s.toList i → i < -2 ^ 63 ∨ 2 ^ 63 ≤ i)
    (h : FloatText.Spells s.toList x) : HasType s (.float x)
  | str (ht : s ≠ "true") (hf : s ≠ "false")
    (hi : ∀ i, Writes s.toList i → i < -2 ^ 63 ∨ 2 ^ 63 ≤ i)
    (hx : ∀ x, ¬FloatText.Spells s.toList x) : HasType s (.str s)

lemma signed?_eq_none_iff {cs : List Char} :
    signed? cs = none ↔ ∀ i, Writes cs i → i < -2 ^ 63 ∨ 2 ^ 63 ≤ i := by
  simp only [Option.eq_none_iff_forall_not_mem, Option.mem_def, signed?_eq_some_iff]
  refine forall_congr' fun i => ?_
  rw [not_and, not_and_or, not_le, not_lt]

/-- The text of a number is no boolean. -/
lemma ne_of_isNumber {s : String} (h : signed? s.toList ≠ none ∨ FloatText.read? s ≠ none) :
    s ≠ "true" ∧ s ≠ "false" := by
  constructor
  · rintro rfl
    exact absurd h (by decide)
  · rintro rfl
    exact absurd h (by decide)

/-- A text is read as what it has the type of. -/
theorem Scalar.ofText_eq_iff {s : String} {x : Scalar} : Scalar.ofText s = x ↔ HasType s x := by
  constructor
  · rintro rfl
    rw [Scalar.ofText]
    split_ifs with ht hf
    · exact .true ht
    · exact .false hf
    · split
      · rename_i i hi
        obtain ⟨hw, hlow, hhigh⟩ := signed?_eq_some_iff.1 hi
        exact .int hw hlow hhigh
      · rename_i hi
        rw [signed?_eq_none_iff] at hi
        split
        · rename_i x hx
          exact .float hi (FloatText.read?_eq_some_iff.1 hx)
        · rename_i hx
          exact .str ht hf hi fun x h => absurd (FloatText.read?_eq_some_iff.2 h) (by simp [hx])
  · rintro (rfl | rfl | ⟨hw, hlow, hhigh⟩ | ⟨hi, hx⟩ | ⟨ht, hf, hi, hx⟩)
    · rfl
    · rfl
    · have hi := signed?_eq_some_iff.2 ⟨hw, hlow, hhigh⟩
      obtain ⟨ht, hf⟩ := ne_of_isNumber (s := s) (.inl (by simp [hi]))
      rw [Scalar.ofText, if_neg ht, if_neg hf, hi]
    · have hx := FloatText.read?_eq_some_iff.2 hx
      obtain ⟨ht, hf⟩ := ne_of_isNumber (s := s) (.inr (by simp [hx]))
      rw [Scalar.ofText, if_neg ht, if_neg hf, signed?_eq_none_iff.2 hi]
      simp only [hx]
    · have hx : FloatText.read? s = none := Option.eq_none_iff_forall_not_mem.2 fun x h =>
        hx x (FloatText.read?_eq_some_iff.1 h)
      rw [Scalar.ofText, if_neg ht, if_neg hf, signed?_eq_none_iff.2 hi]
      simp only [hx]

end ScrollExport.Config
