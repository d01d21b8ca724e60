import Mathlib.Data.List.Basic
import ScrollExport.Proofs.Config.Leaves

/-!
# Precedence of layers

Of several layers that have a value at a path the last one counts, if the path is free: no layer has
a table at its end, none has anything else before its end, and none assigns an item of an array at
its end (`at?_ofLayers`). A layer leaves what it does not mention (`at?_ofLayers_append`).
-/

namespace ScrollExport.Config

open Value KeyPath

/-! ### Free paths -/

/-- The value of the last leaf at a path. -/
def lastAt (ls : List Leaf) (p : List PathStep) : Option Value :=
  (ls.filter fun l => l.1 = p).getLast?.map Prod.snd

/-- What a layer has at a path. -/
def value? (layer : Entries) (p : List PathStep) : Option Value :=
  lastAt (leavesOf layer) p

/-- A layer has a table at a path: an empty one, or one with a key below it. -/
def HasTable (layer : Entries) (p : List PathStep) : Prop :=
  ∃ l ∈ leavesOf layer,
    (l.1 = p ∧ l.2.isTable = true) ∨ ∃ name rest, l.1 = p ++ .key name :: rest

/-- A layer assigns an item, or something inside an item, of an array at a path. -/
def HasItem (layer : Entries) (p : List PathStep) : Prop :=
  ∃ l ∈ leavesOf layer, ∃ i rest, l.1 = p ++ .index i :: rest

/-- A layer has something at a path that is no table. -/
def HasOther (layer : Entries) (p : List PathStep) : Prop :=
  HasItem layer p ∨ ∃ l ∈ leavesOf layer, l.1 = p ∧ l.2.isTable = false

/-- No layer has a table or an item of an array at the end of a path, nor anything that is no table
on the way. -/
structure IsFree (layers : List Entries) (p : List PathStep) : Prop where
  not_hasTable : ∀ layer ∈ layers, ¬ HasTable layer p
  not_hasOther : ∀ layer ∈ layers, ∀ q, q <+: p → q ≠ p → ¬ HasOther layer q
  not_hasItem : ∀ layer ∈ layers, ¬ HasItem layer p

/-! ### Leaves and paths -/

/-- Nothing but tables stands on the way of a path. -/
def Value.Admits : Value → List PathStep → Prop
  | _, [] => True
  | v, .key name :: rest => v.isTable = true ∧ ∀ w, v.get? name = some w → w.Admits rest
  | v, .index _ :: _ => v.isTable = true

/-- A leaf with these steps and this value is at a path, beside it, or an empty table above it. -/
def Spares : List PathStep → Value → List PathStep → Prop
  | [], v, [] => v.isTable = false
  | [], v, _ :: _ => v = emptyTable
  | _ :: _, _, [] => False
  | .key name :: q, v, .key name' :: p => name = name' → Spares q v p
  | .key _ :: _, _, .index _ :: _ => True
  | .index _ :: _, _, _ :: _ => False

namespace Value

lemma at?_index_of_isTable {v : Value} (h : v.isTable = true) (i : Int) (rest : List PathStep) :
    v.at? (.index i :: rest) = none := by
  cases v with
  | table => rfl
  | _ => cases h

lemma admits_emptyTable (p : List PathStep) : emptyTable.Admits p := by
  cases p with
  | nil => trivial
  | cons s p => cases s <;> simp [Admits, isTable, emptyTable, get?, entries, Entries.get?]

lemma at?_emptyTable (s : PathStep) (p : List PathStep) : emptyTable.at? (s :: p) = none := by
  cases s <;> rfl

end Value

/-- What is found below a key, and whether the way there is open, depends on its value alone. -/
lemma at?_focus_self {root : Value} {name : String} {rest : List PathStep}
    {f : Option Value → Value} (hr : root.Admits (.key name :: rest)) {q : List PathStep}
    {v : Value}
    (h : ∀ old : Option Value, (∀ w, old = some w → w.Admits rest) →
      (f old).at? rest = (if q = rest then some v else old.bind (·.at? rest)) ∧
        (f old).Admits rest) :
    (root.focus name f).at? (.key name :: rest) =
        (if PathStep.key name :: q = .key name :: rest then some v
          else root.at? (.key name :: rest)) ∧
      (root.focus name f).Admits (.key name :: rest) := by
  obtain ⟨-, ho⟩ := hr
  obtain ⟨hv, ho⟩ := h (root.get? name) ho
  constructor
  · simpa [at?] using hv
  · simpa [Admits] using ho

/-- A leaf that spares a path is seen there if it is at it, and leaves all as it is otherwise. -/
lemma at?_assign {q p : List PathStep} {v root : Value} (hq : q ≠ []) (hp : p ≠ [])
    (hs : Spares q v p) (hr : root.Admits p) :
    (assignSteps v root q).at? p = (if q = p then some v else root.at? p) ∧
      (assignSteps v root q).Admits p := by
  induction q generalizing p root with
  | nil => exact absurd rfl hq
  | cons s q ih =>
    cases p with
    | nil => exact absurd rfl hp
    | cons s' p =>
      cases s with
      | index i => simp [Spares] at hs
      | key name =>
        rw [assignSteps_cons]
        cases s' with
        | index i =>
          have ht : root.isTable = true := hr
          rw [at?_index_of_isTable (isTable_focus ..), at?_index_of_isTable ht, if_neg (by simp)]
          exact ⟨rfl, isTable_focus ..⟩
        | key name' =>
          by_cases hn : name = name'
          · subst hn
            refine at?_focus_self hr fun old hold => ?_
            have hs : Spares q v p := hs rfl
            cases q with
            | nil =>
              cases p with
              | nil =>
                have hv : v.isTable = false := hs
                rw [placed, merged_of_isTable hv]
                exact ⟨rfl, trivial⟩
              | cons s p =>
                obtain rfl : v = emptyTable := hs
                rw [if_neg (by simp)]
                cases old with
                | none => exact ⟨at?_emptyTable s p, admits_emptyTable _⟩
                | some w => exact ⟨rfl, hold w rfl⟩
            | cons t q =>
              cases p with
              | nil => cases hs
              | cons s p =>
                cases old with
                | some w => exact ih (by simp) (by simp) hs (hold w rfl)
                | none =>
                  have hw := ih (by simp) (by simp) hs (admits_emptyTable (s :: p))
                  rw [at?_emptyTable] at hw
                  cases t with
                  | index i => simp [Spares] at hs
                  | key name' =>
                    rw [placed, Option.getD_none, assignSteps_nil]
                    exact hw
          · rw [if_neg (by simp [hn])]
            obtain ⟨-, ho⟩ := hr
            simp only [at?, Admits, get?_focus, Ne.symm hn, if_false, isTable_focus, true_and]
            exact ho

/-! ### Runs of leaves -/

lemma lastAt_append (ls ls' : List Leaf) (p : List PathStep) :
    lastAt (ls ++ ls') p = (lastAt ls' p).or (lastAt ls p) := by
  rw [lastAt, List.filter_append, List.getLast?_append, lastAt, lastAt]
  cases (ls'.filter fun l => l.1 = p).getLast? <;> simp

/-- Of all leaves at a path the last one counts, if they all spare it. -/
lemma at?_foldl_assign {ls : List Leaf} {p : List PathStep} {root : Value} (hp : p ≠ [])
    (hs : ∀ l ∈ ls, l.1 ≠ [] ∧ Spares l.1 l.2 p) (hr : root.Admits p) :
    (ls.foldl Leaf.assign root).at? p = (lastAt ls p).or (root.at? p) ∧
      (ls.foldl Leaf.assign root).Admits p := by
  induction ls generalizing root with
  | nil => exact ⟨rfl, hr⟩
  | cons l ls ih =>
    obtain ⟨⟨hq, hl⟩, hs⟩ := List.forall_mem_cons.1 hs
    obtain ⟨hv, ho⟩ := at?_assign hq hp hl hr
    obtain ⟨hvs, hos⟩ := ih hs ho
    refine ⟨?_, hos⟩
    show (ls.foldl Leaf.assign (assignSteps l.2 root l.1)).at? p = _
    rw [hvs, hv, ← List.singleton_append, lastAt_append, Option.or_assoc]
    refine congrArg (Option.or (lastAt ls p)) ?_
    rw [lastAt]
    split_ifs with h <;> simp [h]

/-! ### Leaves of layers -/

lemma steps_ne_nil_of_mem_leavesAt {e : String × Value} {l : Leaf} (h : l ∈ leavesAt e) :
    l.1 ≠ [] := by
  obtain ⟨name, rest, hs⟩ := exists_stepsOf_eq e.1
  rw [leavesAt] at h
  split_ifs at h
  · obtain ⟨l, -, rfl⟩ := List.mem_map.1 h
    simp [Leaf.below, hs]
  · obtain rfl := List.mem_singleton.1 h
    simp [hs]

/-- A leaf that is a table is empty, unless it is somewhere in an array. -/
lemma eq_emptyTable_of_mem_leavesAt {e : String × Value} {l : Leaf} (h : l ∈ leavesAt e)
    (ht : l.2.isTable = true) : l.2 = emptyTable ∨ l.1.all PathStep.isKey = false := by
  rw [leavesAt] at h
  split_ifs at h with hk
  · obtain ⟨l, hl, rfl⟩ := List.mem_map.1 h
    have hl := eq_emptyTable_of_mem_leaves hl ht
    exact .inl hl
  · obtain rfl := List.mem_singleton.1 h
    exact .inr (by simpa using hk)

/-- What a leaf must not be to spare a path. -/
lemma spares_of_forall_ne {q p : List PathStep} {v : Value}
    (hempty : v.isTable = true → v = emptyTable ∨ q.all PathStep.isKey = false)
    (hend : q = p → v.isTable = false)
    (hbelow : ∀ name rest, q ≠ p ++ .key name :: rest)
    (hitem : ∀ p', p' <+: p → ∀ i rest, q ≠ p' ++ .index i :: rest)
    (habove : ∀ p', p' <+: p → p' ≠ p → q = p' → v.isTable = true) : Spares q v p := by
  induction q generalizing p with
  | nil =>
    cases p with
    | nil => exact hend rfl
    | cons s p =>
      have ht := habove [] List.nil_prefix (List.cons_ne_nil s p).symm rfl
      exact (hempty ht).resolve_right (by simp)
  | cons s q ih =>
    cases s with
    | index i => exact absurd rfl (hitem [] List.nil_prefix i q)
    | key name =>
      cases p with
      | nil => exact absurd rfl (hbelow name q)
      | cons s p =>
        cases s with
        | index i => trivial
        | key name' =>
          rintro rfl
          apply ih
          · simpa [PathStep.isKey] using hempty
          · rintro rfl
            exact hend rfl
          · rintro name' rest rfl
            exact hbelow name' rest rfl
          · rintro p' hp i rest rfl
            exact hitem _ (List.prefix_cons_inj _ |>.2 hp) i rest rfl
          · rintro p' hp hne rfl
            exact habove _ (List.prefix_cons_inj _ |>.2 hp) (by simpa using hne) rfl

lemma spares_of_isFree {layers : List Entries} {p : List PathStep} (h : IsFree layers p)
    {layer : Entries} (hlayer : layer ∈ layers) {l : Leaf} (hl : l ∈ leavesOf layer) :
    l.1 ≠ [] ∧ Spares l.1 l.2 p := by
  obtain ⟨e, -, he⟩ := List.mem_flatMap.1 hl
  refine ⟨steps_ne_nil_of_mem_leavesAt he, ?_⟩
  apply spares_of_forall_ne (eq_emptyTable_of_mem_leavesAt he)
  · intro hp
    by_contra ht
    exact h.not_hasTable layer hlayer ⟨l, hl, .inl ⟨hp, by simpa using ht⟩⟩
  · intro name rest hp
    exact h.not_hasTable layer hlayer ⟨l, hl, .inr ⟨name, rest, hp⟩⟩
  · intro p' hp' i rest hp
    have hi : HasItem layer p' := ⟨l, hl, i, rest, hp⟩
    by_cases hne : p' = p
    · subst hne
      exact h.not_hasItem layer hlayer hi
    · exact h.not_hasOther layer hlayer p' hp' hne (.inl hi)
  · intro p' hp' hne hp
    by_contra ht
    exact h.not_hasOther layer hlayer p' hp' hne (.inr ⟨l, hl, hp, by simpa using ht⟩)

/-! ### Layers -/

lemma lastAt_flatMap (layers : List Entries) (p : List PathStep) :
    lastAt (layers.flatMap leavesOf) p = (layers.filterMap (value? · p)).getLast? := by
  induction layers with
  | nil => rfl
  | cons layer layers ih =>
    rw [List.flatMap_cons, lastAt_append, ih, List.filterMap_cons, value?]
    cases lastAt (leavesOf layer) p with
    | none => exact Option.or_none
    | some v =>
      rw [List.getLast?_cons]
      cases (layers.filterMap (value? · p)).getLast? <;> rfl

/-- At a free path the last layer counts that has a value there. -/
theorem at?_ofLayers {layers : List Entries} {p : List PathStep} (hp : p ≠ [])
    (h : IsFree layers p) :
    (ofLayers layers).at? p = (layers.filterMap (value? · p)).getLast? := by
  have hs : ∀ l ∈ layers.flatMap leavesOf, l.1 ≠ [] ∧ Spares l.1 l.2 p := by
    intro l hl
    obtain ⟨layer, hlayer, hl⟩ := List.mem_flatMap.1 hl
    exact spares_of_isFree h hlayer hl
  have hroot : emptyTable.at? p = none := by
    cases p with
    | nil => exact absurd rfl hp
    | cons s p => exact at?_emptyTable s p
  rw [ofLayers_eq, (at?_foldl_assign hp hs (admits_emptyTable p)).1, hroot, Option.or_none,
    lastAt_flatMap]

lemma IsFree.singleton {layers : List Entries} {p : List PathStep} (h : IsFree layers p)
    {layer : Entries} (hl : layer ∈ layers) : IsFree [layer] p := by
  constructor <;> rw [List.forall_mem_singleton]
  · exact h.not_hasTable layer hl
  · exact h.not_hasOther layer hl
  · exact h.not_hasItem layer hl

/-- What a layer has at a free path is what it gives there by itself. -/
lemma value?_eq_at? {layers : List Entries} {p : List PathStep} (hp : p ≠ [])
    (h : IsFree layers p) {layer : Entries} (hl : layer ∈ layers) :
    value? layer p = (ofLayers [layer]).at? p := by
  rw [at?_ofLayers hp (h.singleton hl), List.filterMap_cons, List.filterMap_nil]
  cases value? layer p <;> rfl

/-! ### What is left -/

/-- A leaf that spares a path of keys and is not at it is not seen there. -/
lemma at?_assign_of_ne {q p : List PathStep} {v : Value} (hq : q ≠ []) (hne : q ≠ p)
    (hp : p.all PathStep.isKey = true) (hs : Spares q v p) (root : Value) :
    (assignSteps v root q).at? p = root.at? p := by
  induction q generalizing p root with
  | nil => exact absurd rfl hq
  | cons s q ih =>
    cases p with
    | nil => simp [Spares] at hs
    | cons s' p =>
      cases s' with
      | index i => cases hp
      | key name' =>
        cases s with
        | index i => simp [Spares] at hs
        | key name =>
          rw [assignSteps_cons, at?, at?, get?_focus]
          split_ifs with hn
          · subst hn
            have hs : Spares q v p := hs rfl
            have hne : q ≠ p := by simpa using hne
            rw [Option.bind_some]
            cases q with
            | nil =>
              cases p with
              | nil => exact absurd rfl hne
              | cons s p =>
                obtain rfl : v = emptyTable := hs
                cases root.get? name' with
                | none => exact at?_emptyTable s p
                | some w => rfl
            | cons t q =>
              have hat := ih (List.cons_ne_nil t q) hne hp hs ((root.get? name').getD .nil)
              rw [placed, hat]
              cases root.get? name' with
              | some w => rfl
              | none =>
                cases p with
                | nil => cases t <;> simp [Spares] at hs
                | cons s p => cases s <;> rfl
          · rfl

/-- A layer mentions a path: it has something there, or something that is no table on the way. -/
def Mentions (layer : Entries) (p : List PathStep) : Prop :=
  HasTable layer p ∨ ∃ q, q <+: p ∧ HasOther layer q

/-- A layer leaves the keys that it does not mention as they are. -/
theorem at?_ofLayers_append {layer : Entries} {p : List PathStep}
    (hp : p.all PathStep.isKey = true) (h : ¬ Mentions layer p) (layers : List Entries) :
    (ofLayers (layers ++ [layer])).at? p = (ofLayers layers).at? p := by
  have hf : IsFree [layer] p := by
    constructor <;> simp only [List.forall_mem_singleton]
    · exact fun ht => h (.inl ht)
    · exact fun q hq _ ho => h (.inr ⟨q, hq, ho⟩)
    · exact fun hi => h (.inr ⟨p, List.prefix_rfl, .inl hi⟩)
  have hne : ∀ l ∈ leavesOf layer, l.1 ≠ p := by
    intro l hl heq
    cases ht : l.2.isTable with
    | true => exact h (.inl ⟨l, hl, .inl ⟨heq, ht⟩⟩)
    | false => exact h (.inr ⟨p, List.prefix_rfl, .inr ⟨l, hl, heq, ht⟩⟩)
  rw [ofLayers, List.foldl_append, ← ofLayers, List.foldl_cons, List.foldl_nil, applyLayer_eq]
  -- the leaves are assigned one after the other, each to some configuration
  refine List.foldlRecOn (motive := fun v => v.at? p = (ofLayers layers).at? p)
    (leavesOf layer) Leaf.assign rfl ?_
  intro root hroot l hl
  obtain ⟨hq, hs⟩ := spares_of_isFree hf (List.mem_singleton_self layer) hl
  rw [← hroot]
  exact at?_assign_of_ne hq (hne l hl) hp hs root

end ScrollExport.Config
