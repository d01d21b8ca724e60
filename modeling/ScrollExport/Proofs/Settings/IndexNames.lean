import ScrollExport.Proofs.Query.Validation
import ScrollExport.Proofs.Settings.TextSetting
import ScrollExport.Proofs.Text.Pieces

/-!
# Names of indices

The indices are a list of names, or one text in which names are joined by commas. A text is read as
some names exactly if it joins these, with blanks around them and blank pieces anywhere between
(`splitIndices_eq_iff`). Both ways give the same names (`decodeIndices_joined`).
-/

namespace ScrollExport

namespace Text

variable {s : String}

lemma trim_ofList (cs : List Char) :
    trim (String.ofList cs) = String.ofList (strip isBlank cs) := by
  rw [trim, String.toList_ofList]
  rfl

lemma trim_ofList_around {before after : List Char} (hb : ∀ c ∈ before, isBlank c = true)
    (ha : ∀ c ∈ after, isBlank c = true) (s : String) :
    trim (String.ofList (before ++ (s.toList ++ after))) = trim s := by
  rw [trim_ofList, strip_around hb ha, ← trim_ofList, String.ofList_toList]

/-- A text is its trimmed form with blanks around it. -/
lemma exists_trim (cs : List Char) :
    ∃ before after, cs = before ++ ((trim (String.ofList cs)).toList ++ after) ∧
      (∀ c ∈ before, isBlank c = true) ∧ ∀ c ∈ after, isBlank c = true := by
  rw [trim_ofList, String.toList_ofList]
  exact exists_strip isBlank cs

lemma trim_trim (s : String) : trim (trim s) = trim s := by
  obtain ⟨before, after, hs, hb, ha⟩ := exists_trim s.toList
  rw [String.ofList_toList] at hs
  rw [← trim_ofList_around hb ha, ← hs, String.ofList_toList]

lemma mem_of_mem_trim {c : Char} (h : c ∈ (trim s).toList) : c ∈ s.toList := by
  obtain ⟨before, after, hs, -⟩ := exists_trim s.toList
  rw [String.ofList_toList] at hs
  rw [hs]
  simp [h]

lemma comma_ne_of_isBlank {c : Char} (h : isBlank c = true) : ',' ≠ c := by
  rintro rfl
  exact absurd h (by decide)

end Text

namespace Settings

open Config Text

/-! ### Joined names -/

/-- The names in the pieces of a text: a piece is blank, or a name with blanks around it. -/
inductive IsListed : List (List Char) → List String → Prop where
  | nil : IsListed [] []
  | blank {piece : List Char} {pieces : List (List Char)} {names : List String}
    (hp : ∀ c ∈ piece, isBlank c = true) (h : IsListed pieces names) :
    IsListed (piece :: pieces) names
  | name {before after : List Char} {name : String} {pieces : List (List Char)}
    {names : List String} (hb : ∀ c ∈ before, isBlank c = true)
    (ha : ∀ c ∈ after, isBlank c = true) (h : IsListed pieces names) :
    IsListed ((before ++ (name.toList ++ after)) :: pieces) (name :: names)

/-- Names joined by commas, with blanks around the names and blank pieces anywhere between. -/
def IsJoined (s : String) (names : List String) : Prop :=
  ∃ pieces, s.toList = [','].intercalate pieces ∧ IsListed pieces names

/-- What is left of some pieces: the names in them. -/
def namesOf (pieces : List (List Char)) : List String :=
  (pieces.map fun piece => trim (String.ofList piece)).filter (· ≠ "")

lemma splitIndices_eq (s : String) : splitIndices s = namesOf (splitChars (· = ',') s.toList) := by
  rw [splitIndices, split, List.map_map]
  rfl

variable {pieces : List (List Char)} {names : List String}

lemma namesOf_of_isListed (h : IsListed pieces names) (hn : ∀ name ∈ names, IsSingleName name) :
    namesOf pieces = names := by
  induction h with
  | nil => rfl
  | blank hp _ ih =>
    have htrim : trim (String.ofList _) = "" :=
      trim_eq_empty_iff.2 (by rw [isBlankText, String.toList_ofList, List.all_eq_true]; exact hp)
    rw [namesOf, List.map_cons, htrim, List.filter_cons_of_neg (by simp)]
    exact ih hn
  | name hb ha _ ih =>
    obtain ⟨⟨hne, -, htrim⟩, hn⟩ := List.forall_mem_cons.1 hn
    rw [namesOf, List.map_cons, trim_ofList_around hb ha, htrim,
      List.filter_cons_of_pos (by simpa using hne)]
    exact congrArg _ (ih hn)

lemma isListed_namesOf (pieces : List (List Char)) : IsListed pieces (namesOf pieces) := by
  induction pieces with
  | nil => exact .nil
  | cons piece pieces ih =>
    rw [namesOf, List.map_cons]
    by_cases hp : trim (String.ofList piece) = ""
    · rw [List.filter_cons_of_neg (by simpa using hp)]
      rw [trim_eq_empty_iff, isBlankText, String.toList_ofList, List.all_eq_true] at hp
      exact .blank hp ih
    · obtain ⟨before, after, hpiece, hb, ha⟩ := exists_trim piece
      rw [List.filter_cons_of_pos (by simpa using hp)]
      have hl : IsListed (_ :: pieces) (trim (String.ofList piece) :: _) := .name hb ha ih
      rwa [← hpiece] at hl

lemma isSingleName_of_mem_namesOf (hp : ∀ piece ∈ pieces, ',' ∉ piece) :
    ∀ name ∈ namesOf pieces, IsSingleName name := by
  intro name h
  obtain ⟨hm, hne⟩ := List.mem_filter.1 h
  obtain ⟨piece, hpiece, rfl⟩ := List.mem_map.1 hm
  refine ⟨by simpa using hne, fun hc => hp piece hpiece ?_, trim_trim _⟩
  simpa using mem_of_mem_trim hc

lemma comma_notMem_of_isListed (h : IsListed pieces names)
    (hn : ∀ name ∈ names, IsSingleName name) : ∀ piece ∈ pieces, ',' ∉ piece := by
  induction h with
  | nil => nofun
  | blank hp _ ih =>
    exact List.forall_mem_cons.2 ⟨fun hc => comma_ne_of_isBlank (hp _ hc) rfl, ih hn⟩
  | name hb ha _ ih =>
    obtain ⟨⟨-, hcomma, -⟩, hn⟩ := List.forall_mem_cons.1 hn
    refine List.forall_mem_cons.2 ⟨?_, ih hn⟩
    simp only [List.mem_append, not_or]
    exact ⟨fun hc => comma_ne_of_isBlank (hb _ hc) rfl, hcomma,
      fun hc => comma_ne_of_isBlank (ha _ hc) rfl⟩

/-- A text is split into some names exactly if it joins them. -/
theorem splitIndices_eq_iff {s : String} :
    splitIndices s = names ↔ (∀ name ∈ names, IsSingleName name) ∧ IsJoined s names := by
  rw [splitIndices_eq]
  constructor
  · rintro rfl
    refine ⟨isSingleName_of_mem_namesOf notMem_of_mem_splitChars, _, ?_, isListed_namesOf _⟩
    rw [intercalate_splitChars]
  · rintro ⟨hn, pieces, hs, hl⟩
    by_cases hne : pieces = []
    · subst hne
      cases hl
      rw [hs]
      rfl
    · rw [hs, splitChars_intercalate hne (comma_notMem_of_isListed hl hn)]
      exact namesOf_of_isListed hl hn

lemma splitIndices_eq_nil_iff {s : String} :
    splitIndices s = [] ↔ ∀ piece ∈ split ',' s, isBlankText piece = true := by
  rw [splitIndices, List.filter_eq_nil_iff, List.forall_mem_map]
  simp only [← trim_eq_empty_iff, ne_eq, decide_not, Bool.not_eq_true', decide_eq_false_iff_not,
    not_not]

/-! ### Decoding -/

lemma texts?_eq_some_iff {vs : List Value} :
    texts? vs = some names ↔
      List.Forall₂ (fun v name => ∃ o, v = .scalar o (.str name)) vs names := by
  induction vs generalizing names with
  | nil => simp [texts?, eq_comm]
  | cons v vs ih =>
    rw [List.forall₂_cons_left_iff]
    constructor
    · intro h
      match v with
      | .scalar o (.str s) =>
        obtain ⟨rest, hrest, rfl⟩ := Option.map_eq_some_iff.1 h
        exact ⟨s, rest, ⟨o, rfl⟩, ih.1 hrest, rfl⟩
    · rintro ⟨name, rest, ⟨o, rfl⟩, hrest, rfl⟩
      rw [texts?, ih.2 hrest, Option.map_some]

lemma decodeIndices_eq_ok_iff {v : Value} :
    decodeIndices v = .ok names ↔ names ≠ [] ∧ indexNames? v = some names := by
  rw [decodeIndices]
  cases h : indexNames? v with
  | none => simp
  | some found => cases found <;> cases names <;> simp

/-- One text and a list of texts give the same names: the text if it joins them, and the list if it
is the list of them. A text gives none, and is refused, if all its pieces are blank. -/
theorem decodeIndices_joined (names : List String) :
    (∀ o s, decodeIndices (.scalar o (.str s)) = .ok names ↔
      names ≠ [] ∧ (∀ name ∈ names, IsSingleName name) ∧ IsJoined s names) ∧
    (∀ o vs, decodeIndices (.arr o vs) = .ok names ↔
      names ≠ [] ∧ List.Forall₂ (fun v name => ∃ o, v = .scalar o (.str name)) vs names) ∧
    ∀ o s, (∃ e, decodeIndices (.scalar o (.str s)) = .error e) ↔
      ∀ piece ∈ split ',' s, isBlankText piece = true := by
  refine ⟨fun o s => ?_, fun o vs => ?_, fun o s => ?_⟩
  · rw [decodeIndices_eq_ok_iff, indexNames?, Option.some.injEq, splitIndices_eq_iff]
  · rw [decodeIndices_eq_ok_iff, indexNames?, texts?_eq_some_iff]
  · rw [← splitIndices_eq_nil_iff, decodeIndices, indexNames?]
    cases splitIndices s <;> simp

example : decodeIndices (.scalar none (.str " a b,, \tc , ")) = .ok ["a b", "c"] := by
  decide +kernel

end Settings

end ScrollExport
