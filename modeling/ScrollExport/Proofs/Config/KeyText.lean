import ScrollExport.Config.Path
import ScrollExport.Proofs.Number.Decimal
import ScrollExport.Proofs.Text.Span
import ScrollExport.Text.Split

/-!
# Texts of paths

A path is written as a name, then a point and a name for each further key and a number between
brackets for each index. What is read as a path is exactly what one is written as
(`KeyPath.read?_eq_some_iff`).
-/

namespace ScrollExport.Config.KeyPath

open Number Text

variable {cs ds rest : List Char} {i : Int} {steps : List PathStep} {s : String} {p : KeyPath}

/-! ### Grammar -/

/-- One or more characters of a key. -/
def IsName (cs : List Char) : Prop :=
  cs ≠ [] ∧ ∀ c ∈ cs, isKeyChar c = true

instance (cs : List Char) : Decidable (IsName cs) :=
  decidable_of_iff (cs ≠ [] ∧ cs.all isKeyChar = true) (by rw [IsName, List.all_eq_true])

/-- A signed word without a plus, with gaps around it. -/
def IsIndexText (cs : List Char) (i : Int) : Prop :=
  ∃ before word after, cs = before ++ (word ++ after) ∧ (∀ c ∈ before, isGap c = true) ∧
    (∀ c ∈ after, isGap c = true) ∧ word.head? ≠ some '+' ∧ Writes word i ∧
    -2 ^ 63 ≤ i ∧ i < 2 ^ 63

/-- What follows the first key of a path. -/
inductive IsStepsText : List Char → List PathStep → Prop where
  | nil : IsStepsText [] []
  | key {name rest : List Char} {steps : List PathStep} (hn : IsName name)
    (h : IsStepsText rest steps) :
    IsStepsText ('.' :: (name ++ rest)) (.key (String.ofList name) :: steps)
  | index {word rest : List Char} {i : Int} {steps : List PathStep} (hi : IsIndexText word i)
    (h : IsStepsText rest steps) :
    IsStepsText ('[' :: (word ++ ']' :: rest)) (.index i :: steps)

/-- A path and a text of it. -/
inductive IsText : List Char → KeyPath → Prop where
  | intro {name rest : List Char} {steps : List PathStep} (hn : IsName name)
    (h : IsStepsText rest steps) : IsText (name ++ rest) ⟨String.ofList name, steps⟩

/-! ### Indices -/

lemma ne_of_mem_of_writes (h : Writes cs i) : ∀ c ∈ cs, isGap c = false ∧ c ≠ ']' := by
  have hdigit : ∀ c, isDigit c = true → isGap c = false ∧ c ≠ ']' := by
    intro c hc
    have hn := toNat_of_isDigit hc
    have hne : ∀ d : Char, d.toNat < 48 ∨ 57 < d.toNat → c ≠ d := by
      rintro d hd rfl
      omega
    simp [isGap, hne]
  obtain ⟨-, hd⟩ | ⟨-, hd⟩ | ⟨-, hd⟩ := h
  · exact fun c hc => hdigit c (hd c hc)
  · exact List.forall_mem_cons.2 ⟨by decide, fun c hc => hdigit c (hd c hc)⟩
  · exact List.forall_mem_cons.2 ⟨by decide, fun c hc => hdigit c (hd c hc)⟩

lemma readIndex?_eq_some_iff : readIndex? cs = some i ↔ IsIndexText cs i := by
  have hread : readIndex? cs =
      if (strip isGap cs).head? = some '+' then none else signed? (strip isGap cs) := rfl
  rw [hread, Option.ite_none_left_eq_some, signed?_eq_some_iff]
  constructor
  · rintro ⟨hplus, hw, hlow, hhigh⟩
    obtain ⟨before, after, hcs, hb, ha⟩ := exists_strip isGap cs
    exact ⟨before, _, after, hcs, hb, ha, hplus, hw, hlow, hhigh⟩
  · rintro ⟨before, word, after, rfl, hb, ha, hplus, hw, hlow, hhigh⟩
    rw [strip_append hb ha fun c hc => (ne_of_mem_of_writes hw c hc).1]
    exact ⟨hplus, hw, hlow, hhigh⟩

lemma IsIndexText.bracket_notMem (h : IsIndexText cs i) : ∀ c ∈ cs, decide (c ≠ ']') = true := by
  obtain ⟨before, word, after, rfl, hb, ha, -, hw, -⟩ := h
  have hgap : ∀ c, isGap c = true → c ≠ ']' := by
    rintro c hc rfl
    exact absurd hc (by decide)
  intro c hc
  rw [decide_eq_true_eq]
  simp only [List.mem_append] at hc
  rcases hc with hc | hc | hc
  · exact hgap c (hb c hc)
  · exact (ne_of_mem_of_writes hw c hc).2
  · exact hgap c (ha c hc)

/-! ### Steps -/

/-- The next step starts with a point or a bracket. -/
lemma IsStepsText.head? (h : IsStepsText cs steps) : ∀ c ∈ cs.head?, isKeyChar c = false := by
  rintro c hc
  rcases h with _ | _ | _
  · cases hc
  · obtain rfl : '.' = c := Option.some.inj hc
    decide
  · obtain rfl : '[' = c := Option.some.inj hc
    decide

lemma readSteps?_key {name : List Char} (hn : IsName name)
    (hr : ∀ c ∈ rest.head?, isKeyChar c = false) :
    readSteps? ('.' :: (name ++ rest)) =
      (readSteps? rest).map (.key (String.ofList name) :: ·) := by
  rw [readSteps?, takeWhile_append_of_head? hn.2 hr, dropWhile_append_of_head? hn.2 hr,
    if_neg hn.1]

lemma readSteps?_index {word : List Char} (hw : ∀ c ∈ word, decide (c ≠ ']') = true) :
    readSteps? ('[' :: (word ++ ']' :: rest)) =
      (readIndex? word).bind fun i => (readSteps? rest).map (.index i :: ·) := by
  have hr : ∀ c ∈ (']' :: rest).head?, decide (c ≠ ']') = false := by
    rintro c ⟨⟩
    decide
  rw [readSteps?]
  split
  · rename_i h
    rw [dropWhile_append_of_head? hw hr] at h
    cases h
  · rename_i h
    rw [dropWhile_append_of_head? hw hr] at h
    obtain ⟨-, rfl⟩ := List.cons.inj h
    rw [takeWhile_append_of_head? hw hr]

theorem readSteps?_eq_some_iff : readSteps? cs = some steps ↔ IsStepsText cs steps := by
  constructor
  · intro h
    fun_induction readSteps? cs generalizing steps with
    | case1 =>
      obtain rfl := Option.some.inj h
      exact .nil
    | case3 rest name hne =>
      rename_i ih
      obtain ⟨steps, hs, rfl⟩ := Option.map_eq_some_iff.1 h
      have hn : IsName name := ⟨hne, fun c hc => List.mem_takeWhile_imp hc⟩
      have hk := IsStepsText.key hn (ih hs)
      rwa [List.takeWhile_append_dropWhile] at hk
    | case5 rest c after hafter ih =>
      obtain ⟨i, hi, hmap⟩ := Option.bind_eq_some_iff.1 h
      obtain ⟨steps, hs, rfl⟩ := Option.map_eq_some_iff.1 hmap
      have hhead := head?_dropWhile c (by rw [hafter]; rfl)
      obtain rfl : c = ']' := by simpa using hhead
      have hk := IsStepsText.index (readIndex?_eq_some_iff.1 hi) (ih hs)
      rwa [← hafter, List.takeWhile_append_dropWhile] at hk
    | case2 | case4 | case6 => cases h
  · intro h
    induction h with
    | nil => rw [readSteps?]
    | key hn h ih => rw [readSteps?_key hn h.head?, ih, Option.map_some]
    | index hi h ih =>
      rw [readSteps?_index hi.bracket_notMem, readIndex?_eq_some_iff.2 hi, ih]
      rfl

/-- What is read as a path is a text of it. -/
theorem read?_eq_some_iff : read? s = some p ↔ IsText s.toList p := by
  constructor
  · intro h
    simp only [read?] at h
    split_ifs at h with hne
    obtain ⟨steps, hs, rfl⟩ := Option.map_eq_some_iff.1 h
    have hn : IsName (s.toList.takeWhile isKeyChar) :=
      ⟨hne, fun c hc => List.mem_takeWhile_imp hc⟩
    have hk := IsText.intro hn (readSteps?_eq_some_iff.1 hs)
    rwa [List.takeWhile_append_dropWhile] at hk
  · intro h
    generalize hcs : s.toList = cs at h
    obtain ⟨hn, hs⟩ := h
    simp only [read?, hcs]
    rw [takeWhile_append_of_head? hn.2 hs.head?, dropWhile_append_of_head? hn.2 hs.head?,
      if_neg hn.1, readSteps?_eq_some_iff.2 hs, Option.map_some]

/-! ### Dotted keys -/

/-- A name and further ones after points, in one text. -/
lemma isText_intercalate {name : List Char} {names : List (List Char)} (hn : IsName name)
    (hns : ∀ name ∈ names, IsName name) :
    IsText (['.'].intercalate (name :: names))
      ⟨String.ofList name, names.map fun name => .key (String.ofList name)⟩ := by
  rw [Text.intercalate_cons]
  refine .intro hn ?_
  induction names with
  | nil => exact .nil
  | cons next names ih =>
    obtain ⟨hnext, hns⟩ := List.forall_mem_cons.1 hns
    exact .key hnext (ih hns)

end ScrollExport.Config.KeyPath
