import ScrollExport.Json.Reader
import ScrollExport.Proofs.Json.Token
import ScrollExport.Proofs.Json.Tree

/-!
# Reading what was rendered

A rendered value is well formed in every layout, whatever it holds, and its tree does not depend on
the layout (`ofChars?_render`). A value whose numbers are whole and fit a word is the value of its
tree (`ofTree?_ofJson`), and no object that was read has a key twice.
-/

namespace ScrollExport.Json

/-- Induction on the nesting of arrays and objects. -/
theorem induction {motive : Json → Prop} (null : motive .null) (bool : ∀ b, motive (.bool b))
    (int : ∀ i, motive (.int i)) (float : ∀ x, motive (.float x)) (str : ∀ s, motive (.str s))
    (arr : ∀ items, (∀ v ∈ items, motive v) → motive (.arr items))
    (obj : ∀ members, (∀ m ∈ members, motive m.2) → motive (.obj members)) (v : Json) :
    motive v :=
  @Json.rec motive (fun items => ∀ v ∈ items, motive v)
    (fun members => ∀ m ∈ members, motive m.2) (fun m => motive m.2) null bool int float str arr
    obj nofun (fun _ _ h hs => List.forall_mem_cons.2 ⟨h, hs⟩)
    nofun (fun _ _ h hs => List.forall_mem_cons.2 ⟨h, hs⟩) (fun _ _ h => h) v

/-! ### Trees of values -/

/-- A number that is none has no numeral, and is written as null. -/
def Tree.ofFloat : Binary64 → Tree
  | .nan | .infinite _ => .null
  | .finite negative m e => .number (.ofFinite negative m e)

/-- The shape of the texts of a value. -/
def Tree.ofJson : Json → Tree
  | .null => .null
  | .bool b => .bool b
  | .int i => .number (.ofInt i)
  | .float x => .ofFloat x
  | .str s => .text (some s)
  | .arr items => .arr (items.map ofJson)
  | .obj members => .obj (members.map fun m => (some m.1, ofJson m.2))
termination_by v => sizeOf v
decreasing_by
  · have := List.sizeOf_lt_of_mem ‹_›
    simp only [Json.arr.sizeOf_spec]
    omega
  · have := sizeOf_snd_lt_of_mem ‹_›
    simp only [Json.obj.sizeOf_spec]
    omega

/-! ### Tokens of rendered values -/

@[simp] lemma renderItems_eq_map (l : Layout) (items : List Json) :
    renderItems l items = items.map (render l) := by
  induction items with
  | nil => rfl
  | cons v items ih => rw [renderItems, ih, List.map_cons]

@[simp] lemma renderMembers_eq_map (l : Layout) (members : List (String × Json)) :
    renderMembers l members =
      members.map fun m => stringChars m.1 ++ ':' :: l.gap ++ render l m.2 := by
  induction members with
  | nil => rfl
  | cons m members ih => rw [renderMembers, ih, List.map_cons]

namespace Spells

variable {ι : Type} {l : Layout}

lemma isSpace_of_mem_lineBreak : ∀ c ∈ l.lineBreak, isSpace c = true := by
  cases l with
  | compact => simp [Layout.lineBreak]
  | indented depth =>
    simp only [Layout.lineBreak, List.forall_mem_cons, List.mem_replicate]
    refine ⟨by decide, ?_⟩
    rintro c ⟨-, rfl⟩
    decide

lemma isSpace_of_mem_gap : ∀ c ∈ l.gap, isSpace c = true := by
  cases l with
  | compact => simp [Layout.gap]
  | indented depth =>
    have h : isSpace ' ' = true := by decide
    exact List.forall_mem_singleton.2 h

/-- A line break ends a numeral if there is one, and so does the bracket after it. -/
lemma ends_lineBreak_append {c : Char} {cs : List Char} (hc : Numeral.Ends (c :: cs)) :
    Numeral.Ends (l.lineBreak ++ c :: cs) := by
  cases l with
  | compact => exact hc
  | indented depth =>
    rintro d ⟨⟩
    decide

/-- Parts between separators. -/
lemma intercalate {f : ι → List Char} {g : ι → List Token} {xs : List ι} (hne : xs ≠ [])
    (h : ∀ x ∈ xs, Spells (f x) (g x)) :
    Spells ((',' :: l.lineBreak).intercalate (xs.map f)) ([.comma].intercalate (xs.map g)) := by
  induction xs with
  | nil => exact absurd rfl hne
  | cons x xs ih =>
    obtain ⟨hx, hxs⟩ := List.forall_mem_cons.1 h
    cases xs with
    | nil => simpa using hx
    | cons y ys =>
      simp only [List.map_cons, List.intercalate_cons_cons, List.append_assoc] at ih ⊢
      refine hx.append ?_ ?_
      · exact .cons (by decide) (fun _ => rfl)
          (spaces_append isSpace_of_mem_lineBreak (ih (by simp) hxs))
      · rintro c ⟨⟩
        decide

lemma block {o c : Char} {first last : Token} (ho : isSpace o = false)
    (hfirst : ∀ rest, Token.next? (o :: rest) = some (first, rest)) (hc : isSpace c = false)
    (hlast : ∀ rest, Token.next? (c :: rest) = some (last, rest)) (he : Numeral.Ends [c])
    {f : ι → List Char} {g : ι → List Token} {xs : List ι}
    (h : ∀ x ∈ xs, Spells (f x) (g x)) :
    Spells (l.block o c (xs.map f)) (first :: [.comma].intercalate (xs.map g) ++ [last]) := by
  have hclose : Spells [c] [last] := .cons hc hlast .nil
  cases xs with
  | nil => exact .cons ho hfirst hclose
  | cons x xs =>
    rw [Layout.block, if_neg (by simp)]
    simp only [List.cons_append, List.append_assoc]
    refine .cons ho hfirst (spaces_append isSpace_of_mem_lineBreak ?_)
    exact (intercalate (by simp) h).append (spaces_append isSpace_of_mem_lineBreak hclose)
      (ends_lineBreak_append he)

end Spells

/-- A value is rendered as the tokens of its tree. -/
lemma spells_render (l : Layout) (v : Json) : Spells (render l v) (Tree.ofJson v).tokens := by
  induction v using Json.induction generalizing l with
  | null =>
    rw [Tree.ofJson, Tree.tokens]
    exact .of_next? (by decide) fun _ _ => rfl
  | bool b =>
    rw [Tree.ofJson, Tree.tokens]
    cases b <;> exact .of_next? (by decide) fun _ _ => rfl
  | int i =>
    rw [render, ← Numeral.chars_ofInt, Tree.ofJson, Tree.tokens]
    exact .numeral (Numeral.isWellFormed_ofInt i)
  | float x =>
    rw [render, Tree.ofJson]
    cases x with
    | nan =>
      rw [Tree.ofFloat, Tree.tokens]
      exact .of_next? (by decide) fun _ _ => rfl
    | infinite negative =>
      rw [Tree.ofFloat, Tree.tokens]
      exact .of_next? (by decide) fun _ _ => rfl
    | finite negative m e =>
      rw [Tree.ofFloat, Tree.tokens, ← Numeral.chars_ofFinite]
      exact .numeral (Numeral.isWellFormed_ofFinite negative m e)
  | str s =>
    rw [render, Tree.ofJson, Tree.tokens, ← List.append_nil (stringChars s)]
    exact .string_append s .nil
  | arr items ih =>
    rw [render, renderItems_eq_map, Tree.ofJson, Tree.tokens, List.map_map]
    exact .block (by decide) (fun _ => rfl) (by decide) (fun _ => rfl)
      (by simp [Numeral.Ends]; decide) fun v hv => ih v hv _
  | obj members ih =>
    rw [render, renderMembers_eq_map, Tree.ofJson, Tree.tokens, List.map_map]
    refine .block (by decide) (fun _ => rfl) (by decide) (fun _ => rfl)
      (by simp [Numeral.Ends]; decide) fun m hm => ?_
    rw [List.append_assoc, List.cons_append]
    exact .string_append m.1 (.cons (by decide) (fun _ => rfl)
      (.spaces_append Spells.isSpace_of_mem_gap (ih m hm _)))

theorem Tree.ofChars?_render (l : Layout) (v : Json) :
    Tree.ofChars? (render l v) = some (Tree.ofJson v) := by
  rw [Tree.ofChars?, (spells_render l v).tokens?_eq]
  exact Tree.ofTokens?_tokens _

theorem Tree.ofChars?_compact (v : Json) :
    Tree.ofChars? v.compact.toList = some (Tree.ofJson v) := by
  rw [compact, String.toList_ofList, ofChars?_render]

/-! ### Values that are read back -/

/-- All numbers are whole and fit a word. -/
inductive HasWordNumbers : Json → Prop where
  | null : HasWordNumbers .null
  | bool {b : Bool} : HasWordNumbers (.bool b)
  | int {i : Int} (hi : Numeral.FitsWord i) : HasWordNumbers (.int i)
  | str {s : String} : HasWordNumbers (.str s)
  | arr {items : List Json} (hi : ∀ v ∈ items, HasWordNumbers v) : HasWordNumbers (.arr items)
  | obj {members : List (String × Json)} (hm : ∀ m ∈ members, HasWordNumbers m.2) :
    HasWordNumbers (.obj members)

/-- No object has a key twice. -/
inductive HasDistinctKeys : Json → Prop where
  | null : HasDistinctKeys .null
  | bool {b : Bool} : HasDistinctKeys (.bool b)
  | int {i : Int} : HasDistinctKeys (.int i)
  | float {x : Binary64} : HasDistinctKeys (.float x)
  | str {s : String} : HasDistinctKeys (.str s)
  | arr {items : List Json} (hi : ∀ v ∈ items, HasDistinctKeys v) : HasDistinctKeys (.arr items)
  | obj {members : List (String × Json)} (hd : (members.map Prod.fst).Nodup)
    (hm : ∀ m ∈ members, HasDistinctKeys m.2) : HasDistinctKeys (.obj members)

variable {room : Option Nat}

lemma ofItems?_map {ι : Type} {f : ι → Tree} {g : ι → Json} {xs : List ι}
    (h : ∀ x ∈ xs, ofTree? room (f x) = some (g x)) :
    ofItems? room (xs.map f) = some (xs.map g) := by
  induction xs with
  | nil => rfl
  | cons x xs ih =>
    obtain ⟨hx, h⟩ := List.forall_mem_cons.1 h
    rw [List.map_cons, ofItems?, hx, ih h]
    rfl

lemma ofMembers?_map {members : List (String × Json)}
    (h : ∀ m ∈ members, ofTree? room (Tree.ofJson m.2) = some m.2) :
    ofMembers? room (members.map fun m => (some m.1, Tree.ofJson m.2)) = some members := by
  induction members with
  | nil => rfl
  | cons m members ih =>
    obtain ⟨hm, h⟩ := List.forall_mem_cons.1 h
    rw [List.map_cons, ofMembers?, hm, ih h]
    rfl

/-- A value is that of its tree, unless a number or a key is lost in it. -/
lemma ofTree?_ofJson {v : Json} (hn : v.HasWordNumbers) (hd : v.HasDistinctKeys) :
    ofTree? none (Tree.ofJson v) = some v := by
  induction hn with
  | null => rw [Tree.ofJson]; rfl
  | bool => rw [Tree.ofJson]; rfl
  | str => rw [Tree.ofJson]; rfl
  | int hi =>
    rw [Tree.ofJson, ofTree?]
    exact Numeral.value?_ofInt hi
  | arr hi ih =>
    cases hd with
    | arr hd =>
      rw [Tree.ofJson, ofTree?, deeper?, Option.bind_some,
        ofItems?_map fun v hv => ih v hv (hd v hv), List.map_id']
      rfl
  | obj hm ih =>
    cases hd with
    | obj hk hd =>
      rw [Tree.ofJson, ofTree?, deeper?, Option.bind_some,
        ofMembers?_map fun m hm => ih m hm (hd m hm), Option.map_some, Function.comp,
        Keyed.ofList_of_nodup hk]

/-! ### Values that were read -/

lemma exists_mem_of_ofItems? {items : List Tree} {vs : List Json}
    (h : ofItems? room items = some vs) : ∀ v ∈ vs, ∃ t ∈ items, ofTree? room t = some v := by
  induction items generalizing vs with
  | nil =>
    obtain rfl : [] = vs := Option.some.inj h
    nofun
  | cons t items ih =>
    simp only [ofItems?, Option.bind_eq_some_iff, Option.map_eq_some_iff] at h
    obtain ⟨v, hv, vs, hvs, rfl⟩ := h
    refine List.forall_mem_cons.2 ⟨⟨t, List.mem_cons_self .., hv⟩, fun w hw => ?_⟩
    obtain ⟨u, hu, hw⟩ := ih hvs w hw
    exact ⟨u, List.mem_cons_of_mem _ hu, hw⟩

lemma exists_mem_of_ofMembers? {members : List (Option String × Tree)}
    {ms : List (String × Json)} (h : ofMembers? room members = some ms) :
    ∀ m ∈ ms, ∃ u ∈ members, ofTree? room u.2 = some m.2 := by
  induction members generalizing ms with
  | nil =>
    obtain rfl : [] = ms := Option.some.inj h
    nofun
  | cons u members ih =>
    simp only [ofMembers?, Option.bind_eq_some_iff, Option.map_eq_some_iff] at h
    obtain ⟨key, -, v, hv, ms, hms, rfl⟩ := h
    refine List.forall_mem_cons.2 ⟨⟨u, List.mem_cons_self .., hv⟩, fun m hm => ?_⟩
    obtain ⟨w, hw, hm⟩ := ih hms m hm
    exact ⟨w, List.mem_cons_of_mem _ hw, hm⟩

lemma Numeral.exists_of_value? {n : Numeral} {v : Json} (h : n.value? = some v) :
    (∃ i, v = .int i) ∨ ∃ x, v = .float x := by
  simp only [value?] at h
  split_ifs at h
  · exact .inl ⟨_, (Option.some.inj h).symm⟩
  · exact .inl ⟨_, (Option.some.inj h).symm⟩
  all_goals
    obtain ⟨x, -, rfl⟩ := Option.map_eq_some_iff.1 h
    exact .inr ⟨x, rfl⟩

/-- No object of a value that was read has a key twice. -/
theorem hasDistinctKeys_of_ofTree? {t : Tree} {v : Json} (h : ofTree? room t = some v) :
    v.HasDistinctKeys := by
  induction t using Tree.induction generalizing room v with
  | null =>
    obtain rfl : Json.null = v := Option.some.inj h
    exact .null
  | bool b =>
    obtain rfl : Json.bool b = v := Option.some.inj h
    exact .bool
  | number n =>
    rcases Numeral.exists_of_value? h with ⟨i, rfl⟩ | ⟨x, rfl⟩
    · exact .int
    · exact .float
  | text s =>
    obtain ⟨s, -, rfl⟩ := Option.map_eq_some_iff.1 h
    exact .str
  | arr items ih =>
    simp only [ofTree?, Option.bind_eq_some_iff, Option.map_eq_some_iff] at h
    obtain ⟨room, -, vs, hvs, rfl⟩ := h
    refine .arr fun v hv => ?_
    obtain ⟨t, ht, hv⟩ := exists_mem_of_ofItems? hvs v hv
    exact ih t ht hv
  | obj members ih =>
    simp only [ofTree?, Option.bind_eq_some_iff, Option.map_eq_some_iff, Function.comp] at h
    obtain ⟨room, -, ms, hms, rfl⟩ := h
    refine .obj (Keyed.nodup_ofList ms) fun m hm => ?_
    obtain ⟨u, hu, hm⟩ := exists_mem_of_ofMembers? hms m (Keyed.mem_of_mem_ofList hm)
    exact ih u hu hm

end ScrollExport.Json
