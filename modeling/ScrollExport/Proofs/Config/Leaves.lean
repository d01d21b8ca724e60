import ScrollExport.Config.Layers
import ScrollExport.Proofs.Config.Assignment

/-!
# Leaves

A layer is the list of its leaves: values that are no tables, and empty tables, each at the end of
some steps. Putting a layer over a configuration is assigning its leaves one after the other
(`applyLayer_eq`).
-/

namespace ScrollExport.Config

open Value KeyPath

/-- Induction on the nesting of tables. -/
theorem Value.induction {motive : Value → Prop} (scalar : ∀ o s, motive (.scalar o s))
    (arr : ∀ o items, motive (.arr o items))
    (table : ∀ o es, (∀ e ∈ es, motive e.2) → motive (.table o es)) (v : Value) : motive v :=
  @Value.rec motive (fun _ => True) (fun es => ∀ e ∈ es, motive e.2) (fun e => motive e.2) scalar
    (fun o items _ => arr o items) table trivial (fun _ _ _ _ => trivial)
    nofun (fun _ _ h hs => List.forall_mem_cons.2 ⟨h, hs⟩) (fun _ _ h => h) v

/-! ### Steps of keys -/

def PathStep.isKey : PathStep → Bool
  | .key _ => true
  | .index _ => false

namespace KeyPath

def steps (p : KeyPath) : List PathStep :=
  .key p.head :: p.rest

/-- Where a key of a layer leads. -/
def stepsOf (key : String) : List PathStep :=
  match read? key with
  | some p => p.steps
  | none => [.key key]

lemma assignKey_eq (root : Value) (key : String) (v : Value) :
    assignKey root key v = assignSteps v root (stepsOf key) := by
  rw [assignKey, stepsOf]
  cases read? key <;> rfl

lemma exists_stepsOf_eq (key : String) : ∃ name rest, stepsOf key = .key name :: rest := by
  rw [stepsOf]
  cases read? key with
  | none => exact ⟨key, [], rfl⟩
  | some p => exact ⟨p.head, p.rest, rfl⟩

end KeyPath

/-! ### Leaves -/

/-- A value at the end of some steps. -/
abbrev Leaf := List PathStep × Value

namespace Leaf

/-- Assign the value of a leaf. -/
def assign (root : Value) (l : Leaf) : Value :=
  assignSteps l.2 root l.1

/-- The leaf with more steps before its own. -/
def below (steps : List PathStep) (l : Leaf) : Leaf :=
  (steps ++ l.1, l.2)

end Leaf

namespace Value

mutual

/-- The leaves of a value. An empty table is one. -/
def leaves : Value → List Leaf
  | .table _ es => if es.isEmpty then [([], emptyTable)] else entryLeaves es
  | v => [([], v)]

/-- The leaves of some entries. -/
def entryLeaves : List (String × Value) → List Leaf
  | [] => []
  | (key, v) :: rest => v.leaves.map (.below [.key key]) ++ entryLeaves rest

end

lemma leaves_ne_nil (v : Value) : v.leaves ≠ [] := by
  induction v using Value.induction with
  | scalar => simp [leaves]
  | arr => simp [leaves]
  | table o es ih =>
    cases es with
    | nil => simp [leaves]
    | cons e es =>
      have he := ih e (List.mem_cons_self ..)
      simp [leaves, entryLeaves, he]

lemma steps_ne_nil_of_mem_entryLeaves {es : Entries} {l : Leaf} (h : l ∈ entryLeaves es) :
    l.1 ≠ [] := by
  induction es with
  | nil => cases h
  | cons e es ih =>
    rw [entryLeaves, List.mem_append, List.mem_map] at h
    rcases h with ⟨l, -, rfl⟩ | h
    · simp [Leaf.below]
    · exact ih h

/-- The tables among the leaves are empty. -/
lemma eq_emptyTable_of_mem_leaves {v : Value} {l : Leaf} (h : l ∈ v.leaves)
    (ht : l.2.isTable = true) : l.2 = emptyTable := by
  induction v using Value.induction generalizing l with
  | scalar o s =>
    obtain rfl : l = _ := List.mem_singleton.1 h
    cases ht
  | arr o items =>
    obtain rfl : l = _ := List.mem_singleton.1 h
    cases ht
  | table o es ih =>
    rw [leaves] at h
    split_ifs at h
    · obtain rfl : l = _ := List.mem_singleton.1 h
      rfl
    · induction es with
      | nil => cases h
      | cons e es ihe =>
        obtain ⟨he, hes⟩ := List.forall_mem_cons.1 ih
        rw [entryLeaves, List.mem_append, List.mem_map] at h
        rcases h with ⟨l, hl, rfl⟩ | h
        · have hleaf := he hl ht
          exact hleaf
        · cases es with
          | nil => cases h
          | cons => exact ihe hes (by simp) h

end Value

/-! ### Assigning leaf by leaf -/

/-- Leaves below one key change what it stands for. -/
lemma foldl_assign_below (name : String) {ls : List Leaf} (hne : ls ≠ [])
    (hs : ∀ l ∈ ls, l.1 ≠ []) (root : Value) :
    (ls.map (.below [.key name])).foldl Leaf.assign root =
      root.focus name fun old => ls.foldl Leaf.assign (old.getD .nil) := by
  induction ls generalizing root with
  | nil => exact absurd rfl hne
  | cons l ls ih =>
    obtain ⟨hl, hs⟩ := List.forall_mem_cons.1 hs
    have hf : Leaf.assign root (.below [.key name] l) =
        root.focus name fun old => Leaf.assign (old.getD .nil) l := by
      obtain ⟨q, v⟩ := l
      cases q with
      | nil => exact absurd rfl hl
      | cons s rest => exact assignSteps_cons v root name (s :: rest)
    rw [List.map_cons, List.foldl_cons, hf]
    cases ls with
    | nil => rfl
    | cons l' ls =>
      rw [ih (by simp) hs, focus_focus]
      rfl

/-- Assigning a value to a key is assigning its leaves below the key. -/
lemma assign_eq_foldl (key : String) (root v : Value) :
    Value.assign key root v = (v.leaves.map (.below [.key key])).foldl Leaf.assign root := by
  induction v using Value.induction generalizing key root with
  | scalar o s => rfl
  | arr o items => rfl
  | table o es ih =>
    have hall : ∀ r, assignAll r es = (entryLeaves es).foldl Leaf.assign r := by
      clear key root
      induction es with
      | nil => exact fun r => rfl
      | cons e es ihe =>
        obtain ⟨he, hes⟩ := List.forall_mem_cons.1 ih
        intro r
        obtain ⟨k, v⟩ := e
        rw [assignAll, entryLeaves, List.foldl_append, he, ihe hes]
    cases es with
    | nil => rfl
    | cons e es =>
      have hl : (Value.table o (e :: es)).leaves = entryLeaves (e :: es) := by rw [leaves]; rfl
      have hne : entryLeaves (e :: es) ≠ [] := by
        rw [← hl]
        exact leaves_ne_nil _
      rw [hl, foldl_assign_below key hne fun l h => steps_ne_nil_of_mem_entryLeaves h,
        assign_eq_focus]
      refine congrArg (focus key · root) (funext fun old => ?_)
      rw [← hall]
      cases old with
      | some w => rfl
      | none =>
        obtain ⟨k, v⟩ := e
        have hk : Value.assign k .nil v = Value.assign k emptyTable v := by
          rw [assign_eq_focus, assign_eq_focus]
          rfl
        simp only [merged, Option.getD_none, assignAll, hk]

/-- Assigning a value at a path of keys is assigning its leaves below the path. -/
lemma assignSteps_eq_foldl (v root : Value) {q : List PathStep} (hne : q ≠ [])
    (hq : q.all PathStep.isKey = true) :
    assignSteps v root q = (v.leaves.map (.below q)).foldl Leaf.assign root := by
  induction q generalizing root with
  | nil => exact absurd rfl hne
  | cons s q ih =>
    cases s with
    | index i => cases hq
    | key name =>
      cases q with
      | nil => exact assign_eq_foldl name root v
      | cons s q =>
        have hb : (Leaf.below (.key name :: s :: q) : Leaf → Leaf) =
            .below [.key name] ∘ .below (s :: q) := rfl
        rw [assignSteps_cons, hb, ← List.map_map,
          foldl_assign_below name (by simp [leaves_ne_nil])]
        · refine congrArg (focus name · root) (funext fun old => ?_)
          exact ih (old.getD .nil) (by simp) hq
        · intro l hl
          obtain ⟨l, -, rfl⟩ := List.mem_map.1 hl
          exact List.cons_ne_nil s _

/-! ### Layers -/

/-- The leaves of an entry of a layer, whose key may be a path. What is assigned to an item of an
array takes its place as it is. -/
def leavesAt (e : String × Value) : List Leaf :=
  if (stepsOf e.1).all PathStep.isKey then e.2.leaves.map (.below (stepsOf e.1))
  else [(stepsOf e.1, e.2)]

def leavesOf (layer : Entries) : List Leaf :=
  layer.flatMap leavesAt

lemma assignKey_eq_foldl (root : Value) (e : String × Value) :
    assignKey root e.1 e.2 = (leavesAt e).foldl Leaf.assign root := by
  obtain ⟨name, rest, hs⟩ := exists_stepsOf_eq e.1
  rw [assignKey_eq, leavesAt]
  split_ifs with hk
  · exact assignSteps_eq_foldl _ _ (by simp [hs]) hk
  · rfl

/-- Putting a layer over a configuration is assigning its leaves. -/
theorem applyLayer_eq (root : Value) (layer : Entries) :
    applyLayer root layer = (leavesOf layer).foldl Leaf.assign root := by
  rw [applyLayer, leavesOf, List.foldl_flatMap]
  congr 1
  funext root e
  exact assignKey_eq_foldl root e

theorem ofLayers_eq (layers : List Entries) :
    ofLayers layers = (layers.flatMap leavesOf).foldl Leaf.assign emptyTable := by
  rw [ofLayers, List.foldl_flatMap]
  congr 1
  funext root layer
  exact applyLayer_eq root layer

end ScrollExport.Config
