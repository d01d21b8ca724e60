import Mathlib.Data.List.TakeWhile
import ScrollExport.Proofs.Config.Leaves

/-!
# Rebuilding

In a configuration that was built from layers the tables have no source and sorted entries, and its
own keys are no longer paths. Building a configuration from the entries of such a one gives it back
(`ofLayers_entries`).
-/

namespace ScrollExport.Config

namespace Value

/-- All tables outside arrays have no source, and entries in the order of their keys. -/
inductive IsNormal : Value → Prop where
  | scalar (o : Option String) (s : Scalar) : IsNormal (.scalar o s)
  | arr (o : Option String) (items : List Value) : IsNormal (.arr o items)
  | table {es : List (String × Value)} (hs : Entries.IsSorted es) (h : ∀ e ∈ es, IsNormal e.2) :
    IsNormal (.table none es)

namespace IsNormal

lemma nil : IsNormal .nil :=
  .scalar _ _

lemma emptyTable : IsNormal .emptyTable :=
  .table .nil nofun

lemma getD {old : Option Value} (h : ∀ w, old = some w → w.IsNormal) {v : Value}
    (hv : v.IsNormal) : (old.getD v).IsNormal := by
  cases old with
  | none => exact hv
  | some w => exact h w rfl

/-! ### Normal forms of assignments -/

lemma focus {root : Value} (hr : root.IsNormal) (name : String) {f : Option Value → Value}
    (hf : ∀ old : Option Value, (∀ w, old = some w → w.IsNormal) → (f old).IsNormal) :
    (root.focus name f).IsNormal := by
  have hput : ∀ es : Entries, es.IsSorted → (∀ e ∈ es, e.2.IsNormal) →
      IsNormal (.table none (es.put name (f (es.get? name)))) := by
    intro es hs hes
    apply IsNormal.table (Entries.isSorted_put hs name _)
    intro e he
    rcases Entries.mem_put he with rfl | he
    · exact hf _ fun w hw => hes _ (Entries.mem_of_get? hw)
    · exact hes e he
  cases hr with
  | scalar | arr => exact hput [] .nil nofun
  | table hs hes => exact hput _ hs hes

lemma merged (v : Value) {old : Option Value} (ho : ∀ w, old = some w → w.IsNormal) :
    (v.merged old).IsNormal := by
  induction v using Value.induction generalizing old with
  | scalar o s => exact .scalar o s
  | arr o items => exact .arr o items
  | table o es ih =>
    show (assignAll (old.getD .emptyTable) es).IsNormal
    have hr : (old.getD .emptyTable).IsNormal := getD ho .emptyTable
    revert hr
    generalize old.getD .emptyTable = root
    induction es generalizing root with
    | nil => exact id
    | cons e es ihe =>
      obtain ⟨he, hes⟩ := List.forall_mem_cons.1 ih
      intro hr
      rw [assignAll]
      apply ihe hes
      rw [assign_eq_focus]
      exact hr.focus _ fun old hold => he hold

lemma assignSteps (v : Value) {root : Value} (hr : root.IsNormal) {q : List PathStep}
    (hq : q ≠ []) : (KeyPath.assignSteps v root q).IsNormal := by
  induction q generalizing root with
  | nil => exact absurd rfl hq
  | cons s q ih =>
    cases s with
    | index i => exact .arr _ _
    | key name =>
      rw [KeyPath.assignSteps_cons]
      refine hr.focus name fun old hold => ?_
      cases q with
      | nil => exact merged v hold
      | cons s q => exact ih (getD hold .nil) (List.cons_ne_nil s q)

/-! ### Assignments of normal forms -/

/-- Entries whose keys come after all others are assigned at the end, if their own values stay as
they are. -/
lemma assignAll_table {es : Entries} (h : ∀ e ∈ es, e.2.merged none = e.2) {before : Entries}
    (hs : (before ++ es).IsSorted) :
    assignAll (.table none before) es = .table none (before ++ es) := by
  induction es generalizing before with
  | nil => rw [List.append_nil, assignAll]
  | cons e es ih =>
    obtain ⟨he, hes⟩ := List.forall_mem_cons.1 h
    obtain ⟨key, v⟩ := e
    have hlt : ∀ e ∈ before, e.1 < key := fun e hmem =>
      (List.pairwise_append.1 hs).2.2 e hmem (key, v) (List.mem_cons_self ..)
    have hnone : before.get? key = none := by
      apply Entries.get?_eq_none_of_forall_ne
      rintro e hmem rfl
      exact String.lt_irrefl _ (hlt e hmem)
    have hput : assign key (.table none before) v = .table none (before ++ [(key, v)]) := by
      rw [assign_eq_focus]
      show Value.table none (before.put key (v.merged (before.get? key))) = _
      rw [hnone, he, Entries.put_eq_append hlt]
    rw [List.append_cons] at hs ⊢
    rw [assignAll, hput, ih hes hs]

/-- A normal form is assigned as it is where nothing was. -/
lemma merged_none {v : Value} (h : v.IsNormal) : v.merged none = v := by
  induction v using Value.induction with
  | scalar | arr => rfl
  | table o es ih =>
    cases h with
    | @table es hs hes =>
      show assignAll (.table none []) es = .table none ([] ++ es)
      exact assignAll_table (fun e he => ih e he (hes e he)) hs

end IsNormal

end Value

open Value KeyPath

/-! ### Plain keys -/

/-- A key that leads to itself. -/
def IsPlain (key : String) : Prop :=
  stepsOf key = [.key key]

lemma read?_takeWhile {cs : List Char} (h : cs.takeWhile isKeyChar ≠ []) :
    read? (String.ofList (cs.takeWhile isKeyChar)) =
      some ⟨String.ofList (cs.takeWhile isKeyChar), []⟩ := by
  have hd : (cs.takeWhile isKeyChar).dropWhile isKeyChar = [] :=
    List.dropWhile_eq_nil_iff.2 fun c hc => List.mem_takeWhile_imp hc
  simp only [read?, String.toList_ofList, List.takeWhile_idem, hd, h, if_false, readSteps?,
    Option.map_some]

/-- The first key of each path is plain. -/
lemma isPlain_of_stepsOf_eq {key name : String} {rest : List PathStep}
    (h : stepsOf key = .key name :: rest) : IsPlain name := by
  cases hp : read? key with
  | none =>
    have hs : stepsOf key = [.key key] := by rw [stepsOf, hp]
    obtain ⟨rfl, -⟩ : key = name ∧ [] = rest := by simpa [hs] using h
    exact hs
  | some p =>
    obtain ⟨rfl, -⟩ : p.head = name ∧ p.rest = rest := by simpa [stepsOf, hp, steps] using h
    simp only [read?] at hp
    split_ifs at hp with hn
    obtain ⟨rest', -, rfl⟩ := Option.map_eq_some_iff.1 hp
    rw [IsPlain, stepsOf, read?_takeWhile hn]
    rfl

lemma isPlain_of_read? {key : String} {p : KeyPath} (h : read? key = some p) :
    IsPlain p.head := by
  have hs : stepsOf key = .key p.head :: p.rest := by
    rw [stepsOf, h]
    rfl
  exact isPlain_of_stepsOf_eq hs

/-! ### Built configurations -/

/-- What holds of a configuration that was built from layers. -/
structure IsBuilt (v : Value) : Prop where
  isTable : v.isTable = true
  isNormal : v.IsNormal
  isPlain : ∀ e ∈ v.entries, IsPlain e.1

namespace IsBuilt

lemma emptyTable : IsBuilt .emptyTable :=
  ⟨rfl, .emptyTable, nofun⟩

lemma assignSteps {root : Value} (h : IsBuilt root) (v : Value) {name : String}
    (hn : IsPlain name) (rest : List PathStep) :
    IsBuilt (assignSteps v root (.key name :: rest)) := by
  have hr := h.isNormal.assignSteps v (List.cons_ne_nil (.key name) rest)
  rw [assignSteps_cons] at hr ⊢
  refine ⟨isTable_focus .., hr, ?_⟩
  obtain ⟨ht, -, hk⟩ := h
  cases root with
  | scalar | arr => cases ht
  | table o es =>
    intro e he
    rcases Entries.mem_put he with rfl | he
    · exact hn
    · exact hk e he

lemma assignKey {root : Value} (h : IsBuilt root) (key : String) (v : Value) :
    IsBuilt (assignKey root key v) := by
  obtain ⟨name, rest, hs⟩ := exists_stepsOf_eq key
  rw [assignKey_eq, hs]
  exact h.assignSteps v (isPlain_of_stepsOf_eq hs) rest

lemma applyLayer {root : Value} (h : IsBuilt root) (layer : Entries) :
    IsBuilt (applyLayer root layer) :=
  List.foldlRecOn layer _ h fun _ h e _ => h.assignKey e.1 e.2

lemma ofLayers (layers : List Entries) : IsBuilt (ofLayers layers) :=
  List.foldlRecOn layers _ emptyTable fun _ h layer _ => h.applyLayer layer

end IsBuilt

lemma applyLayer_of_isPlain {layer : Entries} (h : ∀ e ∈ layer, IsPlain e.1) (root : Value) :
    applyLayer root layer = assignAll root layer := by
  induction layer generalizing root with
  | nil => rfl
  | cons e layer ih =>
    obtain ⟨he, hes⟩ := List.forall_mem_cons.1 h
    show applyLayer (assignKey root e.1 e.2) layer = _
    rw [assignKey_eq, he, ih hes]
    rfl

/-- A configuration that was built once is built from its own entries again. -/
theorem ofLayers_entries (layers : List Entries) :
    ofLayers [(ofLayers layers).entries] = ofLayers layers := by
  obtain ⟨ht, hn, hk⟩ := IsBuilt.ofLayers layers
  generalize ofLayers layers = v at ht hn hk
  show applyLayer emptyTable v.entries = v
  rw [applyLayer_of_isPlain hk]
  cases v with
  | scalar | arr => cases ht
  | table o es => exact hn.merged_none

end ScrollExport.Config
