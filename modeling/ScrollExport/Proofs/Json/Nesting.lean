import ScrollExport.Json.Reader
import ScrollExport.Proofs.Json.Tree

/-!
# Nesting

How deep the arrays and objects of a tree are nested. A limit on the nesting refuses the trees that
are nested deeper, and changes nothing else (`ofTree?_some_iff`).
-/

namespace ScrollExport.Json

namespace Tree

mutual

/-- The greatest number of arrays and objects inside each other. -/
def depth : Tree → Nat
  | .arr items => depthOfItems items + 1
  | .obj members => depthOfMembers members + 1
  | .null | .bool _ | .number _ | .text _ => 0

def depthOfItems : List Tree → Nat
  | [] => 0
  | t :: ts => max t.depth (depthOfItems ts)

def depthOfMembers : List (Option String × Tree) → Nat
  | [] => 0
  | (_, t) :: ts => max t.depth (depthOfMembers ts)

end

end Tree

variable {room : Nat}

lemma ofItems?_some_iff {items : List Tree}
    (h : ∀ t ∈ items, ∀ v,
      ofTree? (some room) t = some v ↔ ofTree? none t = some v ∧ t.depth ≤ room)
    {vs : List Json} :
    ofItems? (some room) items = some vs ↔
      ofItems? none items = some vs ∧ Tree.depthOfItems items ≤ room := by
  induction items generalizing vs with
  | nil => simp [ofItems?, Tree.depthOfItems]
  | cons t items ih =>
    obtain ⟨ht, hi⟩ := List.forall_mem_cons.1 h
    simp only [ofItems?, Tree.depthOfItems, Option.bind_eq_some_iff, Option.map_eq_some_iff, ht,
      ih hi, Nat.max_le]
    constructor
    · rintro ⟨v, ⟨hv, htd⟩, vs, ⟨hvs, hid⟩, rfl⟩
      exact ⟨⟨v, hv, vs, hvs, rfl⟩, htd, hid⟩
    · rintro ⟨⟨v, hv, vs, hvs, rfl⟩, htd, hid⟩
      exact ⟨v, ⟨hv, htd⟩, vs, ⟨hvs, hid⟩, rfl⟩

lemma ofMembers?_some_iff {members : List (Option String × Tree)}
    (h : ∀ m ∈ members, ∀ v,
      ofTree? (some room) m.2 = some v ↔ ofTree? none m.2 = some v ∧ m.2.depth ≤ room)
    {ms : List (String × Json)} :
    ofMembers? (some room) members = some ms ↔
      ofMembers? none members = some ms ∧ Tree.depthOfMembers members ≤ room := by
  induction members generalizing ms with
  | nil => simp [ofMembers?, Tree.depthOfMembers]
  | cons m members ih =>
    obtain ⟨ht, hm⟩ := List.forall_mem_cons.1 h
    simp only [ofMembers?, Tree.depthOfMembers, Option.bind_eq_some_iff, Option.map_eq_some_iff, ht,
      ih hm, Nat.max_le]
    constructor
    · rintro ⟨key, hkey, v, ⟨hv, htd⟩, ms, ⟨hms, hmd⟩, rfl⟩
      exact ⟨⟨key, hkey, v, hv, ms, hms, rfl⟩, htd, hmd⟩
    · rintro ⟨⟨key, hkey, v, hv, ms, hms, rfl⟩, htd, hmd⟩
      exact ⟨key, hkey, v, ⟨hv, htd⟩, ms, ⟨hms, hmd⟩, rfl⟩

/-- A tree is read within a limit exactly if it is read without one and its nesting is within it. -/
theorem ofTree?_some_iff {t : Tree} {v : Json} :
    ofTree? (some room) t = some v ↔ ofTree? none t = some v ∧ t.depth ≤ room := by
  induction t using Tree.induction generalizing room v with
  | null | bool | number | text => simp [ofTree?, Tree.depth]
  | arr items ih =>
    cases room with
    | zero => simp [ofTree?, deeper?, Tree.depth]
    | succ room =>
      simp only [ofTree?, deeper?, Tree.depth, Option.bind_some, Option.map_eq_some_iff,
        ofItems?_some_iff fun t ht v => ih t ht, Nat.add_le_add_iff_right]
      constructor
      · rintro ⟨vs, ⟨hvs, hd⟩, rfl⟩
        exact ⟨⟨vs, hvs, rfl⟩, hd⟩
      · rintro ⟨⟨vs, hvs, rfl⟩, hd⟩
        exact ⟨vs, ⟨hvs, hd⟩, rfl⟩
  | obj members ih =>
    cases room with
    | zero => simp [ofTree?, deeper?, Tree.depth]
    | succ room =>
      simp only [ofTree?, deeper?, Tree.depth, Option.bind_some, Option.map_eq_some_iff,
        ofMembers?_some_iff fun m hm v => ih m hm, Nat.add_le_add_iff_right]
      constructor
      · rintro ⟨ms, ⟨hms, hd⟩, rfl⟩
        exact ⟨⟨ms, hms, rfl⟩, hd⟩
      · rintro ⟨⟨ms, hms, rfl⟩, hd⟩
        exact ⟨ms, ⟨hms, hd⟩, rfl⟩

end ScrollExport.Json
