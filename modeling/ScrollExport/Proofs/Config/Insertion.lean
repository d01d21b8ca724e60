import ScrollExport.Proofs.Config.Precedence
import ScrollExport.Proofs.Config.Rebuilding
import ScrollExport.Proofs.Results

/-!
# One more assignment

A layer with one more value at a path of keys puts it over a configuration last
(`applyLayer_assignSteps`), and a later layer that has nothing at the path leaves it there
(`applyLayer_over`). So one more override or variable is one more assignment in what is resolved
(`Sources.resolve_override`, `Sources.resolve_variable`).
-/

namespace ScrollExport.Config

open Value KeyPath

/-! ### Tables over tables -/

lemma assignAll_eq_foldl (root : Value) (es : Entries) :
    assignAll root es = es.foldl (fun r e => Value.assign e.1 r e.2) root := by
  induction es generalizing root with
  | nil => rfl
  | cons e es ih =>
    rw [assignAll, ih]
    rfl

/-- The entry of one key can be assigned last. -/
lemma assignAll_of_mem {es : Entries} (hs : es.IsSorted) {name : String} {w : Value}
    (hm : (name, w) ∈ es) (root : Value) :
    assignAll root es = (assignAll root (Keyed.erase es name)).focus name (merged w) := by
  rw [assignAll_eq_foldl, assignAll_eq_foldl, ← assign_eq_focus]
  refine foldl_eq_of_mem (Entries.nodup_keys hs) hm (fun e _ hne r => ?_) root
  simp only [assign_eq_focus]
  exact focus_comm hne.symm _ _ r

/-- What other keys stand for is of no account to the entries. -/
lemma assignAll_focus {es : Entries} {name : String} (h : ∀ e ∈ es, e.1 ≠ name)
    (f : Option Value → Value) (root : Value) :
    assignAll (root.focus name f) es = (assignAll root es).focus name f := by
  induction es generalizing root with
  | nil => rfl
  | cons e es ih =>
    obtain ⟨he, hes⟩ := List.forall_mem_cons.1 h
    rw [assignAll, assignAll, assign_eq_focus, assign_eq_focus, focus_comm he.symm, ih hes]

lemma erase_of_get?_eq_none {es : Entries} {name : String} (h : es.get? name = none) :
    Keyed.erase es name = es := by
  induction es with
  | nil => rfl
  | cons e es ih => grind [Entries.get?, Keyed.erase]

lemma ne_of_mem_erase {es : Entries} {name : String} :
    ∀ e ∈ Keyed.erase es name, e.1 ≠ name := by
  intro e he
  simpa using (List.mem_filter.1 he).2

/-- Below a key, what is no table before becomes one anyway. -/
lemma placed_keys (x : Value) (name : String) (names : List String) (old : Option Value) :
    placed x (keys (name :: names)) old =
      assignSteps x (old.getD emptyTable) (keys (name :: names)) := by
  cases old with
  | some w => rfl
  | none => exact assignSteps_nil x name _

lemma assignAll_put {es : Entries} (hs : es.IsSorted) (name : String) (v root : Value) :
    assignAll root (es.put name v) =
      (assignAll root (Keyed.erase es name)).focus name (merged v) := by
  rw [assignAll_of_mem (Entries.isSorted_put hs name v) (Entries.mem_put_self es name v),
    Entries.erase_put]

/-- What a key stands for after something may have gone over it. -/
def overlaid (v : Option Value) (old : Option Value) : Option Value :=
  match v with
  | some v => some (merged v old)
  | none => old

lemma assignAll_eq_erase {es : Entries} (hs : es.IsSorted) (name : String)
    (f : Option Value → Value) (root : Value) :
    (assignAll root es).focus name f =
      (assignAll root (Keyed.erase es name)).focus name fun old =>
        f (overlaid (es.get? name) old) := by
  cases hget : es.get? name with
  | none =>
    rw [erase_of_get?_eq_none hget]
    rfl
  | some u =>
    rw [assignAll_of_mem hs (Entries.mem_of_get? hget), focus_focus]
    rfl

/-- A table goes over another one together with a change of one of its keys. -/
lemma merged_focus {es : Entries} (hs : es.IsSorted) {name : String} {f : Option Value → Value}
    (h : ∀ old, merged (f (es.get? name)) old = f (overlaid (es.get? name) old))
    (old : Option Value) :
    merged ((Value.table none es).focus name f) old =
      (merged (.table none es) old).focus name f := by
  show assignAll _ (es.put name (f (es.get? name))) = (assignAll _ es).focus name f
  rw [assignAll_put hs, assignAll_eq_erase hs]
  exact congrArg (focus name · _) (funext h)

/-- A table goes over another one in which one key was changed. -/
lemma merged_of_focus {es : Entries} (hs : es.IsSorted) {name : String} {f : Option Value → Value}
    (h : ∀ old, overlaid (es.get? name) (some (f old)) = some (f (overlaid (es.get? name) old)))
    (root : Value) :
    merged (.table none es) (some (root.focus name f)) =
      (merged (.table none es) (some root)).focus name f := by
  show assignAll (root.focus name f) es = (assignAll root es).focus name f
  rw [assignAll_eq_erase hs]
  cases hget : es.get? name with
  | none =>
    rw [← assignAll_focus ne_of_mem_erase, erase_of_get?_eq_none hget]
    rfl
  | some u =>
    rw [assignAll_of_mem hs (Entries.mem_of_get? hget), assignAll_focus ne_of_mem_erase,
      focus_focus]
    rw [hget] at h
    exact congrArg (focus name · _) (funext fun old => Option.some.inj (h old))

section Tables

variable {x : Value} {w : Value} (hn : w.IsNormal) {name : String} {names : List String}

include hn

/-- A table with one more value goes over another one like the table, and then the value. -/
lemma merged_assignSteps (hx : x.isTable = false) (ho : w.Admits (keys (name :: names)))
    (old : Option Value) :
    merged (assignSteps x w (keys (name :: names))) old =
      assignSteps x (merged w old) (keys (name :: names)) := by
  induction names generalizing name w old with
  | nil =>
    obtain ⟨ht, -⟩ := ho
    cases hn with
    | scalar | arr => cases ht
    | table hs _ =>
      rw [keys, List.map_cons, assignSteps_cons, assignSteps_cons, ← keys]
      refine merged_focus hs (fun old => ?_) old
      simp only [keys, List.map_nil, placed, merged_of_isTable hx]
  | cons name' names ih =>
    obtain ⟨ht, ho⟩ := ho
    cases hn with
    | scalar | arr => cases ht
    | @table es hs hes =>
      rw [keys, List.map_cons, assignSteps_cons, assignSteps_cons, ← keys]
      refine merged_focus hs (fun old => ?_) old
      rw [placed_keys, placed_keys]
      cases hget : Entries.get? es name with
      | none => exact ih .emptyTable (admits_emptyTable _) old
      | some u => exact ih (hes _ (Entries.mem_of_get? hget)) (ho u hget) old

/-- A table that has nothing at a path goes over another one before or after a value there. -/
lemma merged_over (ho : w.Admits (keys (name :: names)))
    (hnone : w.at? (keys (name :: names)) = none) (root : Value) :
    merged w (some (assignSteps x root (keys (name :: names)))) =
      assignSteps x (merged w (some root)) (keys (name :: names)) := by
  induction names generalizing name w root with
  | nil =>
    obtain ⟨ht, -⟩ := ho
    cases hn with
    | scalar | arr => cases ht
    | @table es hs hes =>
      have hget : Entries.get? es name = none := by
        simpa [keys, at?, get?, entries] using hnone
      rw [keys, List.map_cons, assignSteps_cons, assignSteps_cons, ← keys]
      refine merged_of_focus hs (fun old => ?_) root
      rw [hget]
      rfl
  | cons name' names ih =>
    obtain ⟨ht, ho⟩ := ho
    cases hn with
    | scalar | arr => cases ht
    | @table es hs hes =>
      rw [keys, List.map_cons, assignSteps_cons, assignSteps_cons, ← keys]
      refine merged_of_focus hs (fun old => ?_) root
      rw [placed_keys, placed_keys]
      cases hget : Entries.get? es name with
      | none => rfl
      | some u =>
        have hu : u.at? (keys (name' :: names)) = none := by
          simpa [keys, at?, get?, entries, hget] using hnone
        have hadmits := ho u hget
        refine congrArg some ?_
        rw [overlaid, ih (hes _ (Entries.mem_of_get? hget)) hadmits hu]
        -- the table goes over nothing as over an empty one
        cases old with
        | some old => rfl
        | none =>
          cases u with
          | scalar | arr => cases hadmits.1
          | table => rfl

end Tables

/-! ### Layers -/

section Layers

variable {x : Value} {v : Value} (hv : IsBuilt v) {name : String} {names : List String}

include hv

lemma applyLayer_eq_merged (root : Value) : applyLayer root v.entries = merged v (some root) := by
  obtain ⟨ht, -, hk⟩ := hv
  rw [applyLayer_of_isPlain hk]
  cases v with
  | scalar | arr => cases ht
  | table o es => rfl

/-- A layer with one more value: the value goes over the layer and all before it. -/
lemma applyLayer_assignSteps (hx : x.isTable = false) (hp : IsPlain name)
    (ho : v.Admits (keys (name :: names))) (root : Value) :
    applyLayer root (assignSteps x v (keys (name :: names))).entries =
      assignSteps x (applyLayer root v.entries) (keys (name :: names)) := by
  have hb : IsBuilt (assignSteps x v (keys (name :: names))) := hv.assignSteps x hp (keys names)
  rw [applyLayer_eq_merged hb, applyLayer_eq_merged hv]
  exact merged_assignSteps hv.isNormal hx ho (some root)

/-- A layer that has nothing at a path leaves the value there. -/
lemma applyLayer_over (ho : v.Admits (keys (name :: names)))
    (hnone : v.at? (keys (name :: names)) = none) (root : Value) :
    applyLayer (assignSteps x root (keys (name :: names))) v.entries =
      assignSteps x (applyLayer root v.entries) (keys (name :: names)) := by
  rw [applyLayer_eq_merged hv, applyLayer_eq_merged hv]
  exact merged_over hv.isNormal ho hnone root

end Layers

/-! ### Overrides -/

lemma KeyPath.Apart.spares {q p : List PathStep} (h : Apart q p) (v : Value) : Spares q v p := by
  induction h with
  | here h => exact fun he => absurd he h
  | there _ ih => exact fun _ => ih

lemma spares_keys {x : Value} (hx : x.isTable = false) (names : List String) :
    Spares (keys names) x (keys names) := by
  induction names with
  | nil => exact hx
  | cons name names ih => exact fun _ => ih

lemma isPlain_of_read {text : String} {a : Assignment} (h : Assignment.read text = .ok a) :
    IsPlain a.path.head := by
  rw [Assignment.read] at h
  split at h
  · cases h
  · split at h
    · cases h
    · rename_i path hpath
      obtain rfl := Except.ok.inj h
      exact isPlain_of_read? hpath

/-- The configuration of assignments; of those of one path the last one counts. -/
def ofAssignments (as : List (KeyPath × Scalar)) : Value :=
  (Keyed.ofList as).foldl (fun root a => a.1.assign root (.scalar none a.2)) .emptyTable

lemma ofOverrides_eq (texts : List String) :
    ofOverrides texts = (texts.mapM Assignment.read).map fun as =>
      ofAssignments (as.map fun a => (a.path, a.value)) :=
  rfl

lemma isBuilt_ofAssignments {as : List (KeyPath × Scalar)} (h : ∀ a ∈ as, IsPlain a.1.head) :
    IsBuilt (ofAssignments as) :=
  List.foldlRecOn _ _ .emptyTable fun _ hv a ha =>
    hv.assignSteps _ (h a (Keyed.mem_of_mem_ofList ha)) a.1.rest

section Overrides

variable {p : KeyPath} {name : String} {names : List String} (hp : p.steps = keys (name :: names))

include hp

/-- If all paths are the given one or part from it, nothing but tables stands on its way. -/
lemma admits_ofAssignments {as : List (KeyPath × Scalar)}
    (h : ∀ a ∈ as, a.1 = p ∨ Apart a.1.steps p.steps) :
    (ofAssignments as).Admits p.steps ∧
      ((∀ a ∈ as, Apart a.1.steps p.steps) → (ofAssignments as).at? p.steps = none) := by
  let ls : List Leaf := (Keyed.ofList as).map fun a => (a.1.steps, .scalar none a.2)
  have hv : ofAssignments as = ls.foldl Leaf.assign emptyTable := by
    rw [List.foldl_map]
    rfl
  have hs : ∀ l ∈ ls, l.1 ≠ [] ∧ Spares l.1 l.2 p.steps := by
    intro l hl
    obtain ⟨a, ha, rfl⟩ := List.mem_map.1 hl
    refine ⟨List.cons_ne_nil _ _, ?_⟩
    rcases h a (Keyed.mem_of_mem_ofList ha) with he | he
    · rw [he, hp]
      exact spares_keys rfl _
    · exact he.spares _
  obtain ⟨hat, hadmits⟩ := at?_foldl_assign (p := p.steps) (List.cons_ne_nil _ _) hs
    (admits_emptyTable _)
  rw [hv]
  refine ⟨hadmits, fun hapart => ?_⟩
  have hlast : lastAt ls p.steps = none := by
    rw [lastAt, List.filter_eq_nil_iff.2]
    · rfl
    · intro l hl
      obtain ⟨a, ha, rfl⟩ := List.mem_map.1 hl
      simpa using (hapart a (Keyed.mem_of_mem_ofList ha)).ne
  rw [hat, hlast]
  exact at?_emptyTable _ _

/-- One more assignment is made last, if all others lead elsewhere or are earlier ones of its own
path. -/
lemma ofAssignments_insert {bs cs : List (KeyPath × Scalar)}
    (hb : ∀ a ∈ bs, a.1 = p ∨ Apart a.1.steps p.steps) (hc : ∀ a ∈ cs, Apart a.1.steps p.steps)
    (x : Scalar) :
    ofAssignments (bs ++ (p, x) :: cs) =
      assignSteps (.scalar none x) (ofAssignments (bs ++ cs)) p.steps := by
  have hne : ∀ a ∈ cs, a.1 ≠ p := by
    rintro a ha rfl
    exact (hc a ha).ne rfl
  refine foldl_eq_of_erase_eq (f := fun root a => KeyPath.assign a.1 root (.scalar none a.2))
    (Keyed.nodup_ofList _) (Keyed.nodup_ofList _) ?_ ?_ ?_ ?_ _
  · have hcs : cs.filter (fun a => a.1 = p) = [] := by simpa using hne
    rw [← Keyed.get?_eq_some_iff (Keyed.nodup_ofList _), Keyed.get?_ofList, List.filter_append,
      List.filter_cons_of_pos (by simp), hcs]
    simp
  · rw [Keyed.erase_ofList, Keyed.erase_ofList, List.filter_append, List.filter_append,
      List.filter_cons_of_neg (by simp)]
  · intro a ha hap w root
    have ha := Keyed.mem_of_mem_ofList ha
    have hapart : Apart a.1.steps p.steps := by
      rcases List.mem_append.1 ha with ha | ha
      · exact (hb a ha).resolve_left hap
      · exact hc a ha
    exact hapart.symm.assignSteps_comm _ _ root
  · intro w root
    show assignSteps _ (assignSteps _ root p.steps) p.steps = assignSteps _ root p.steps
    rw [hp]
    exact assignSteps_assignSteps rfl _ root name names

end Overrides

/-! ### Texts of overrides -/

/-- Every override that can be read parts from the path. -/
def LeadElsewhere (texts : List String) (p : KeyPath) : Prop :=
  ∀ text ∈ texts, ∀ a, Assignment.read text = .ok a → Apart a.path.steps p.steps

/-- Every override that can be read is one of the path or parts from it. -/
def LeadThere (texts : List String) (p : KeyPath) : Prop :=
  ∀ text ∈ texts, ∀ a, Assignment.read text = .ok a → a.path = p ∨ Apart a.path.steps p.steps

section Overrides

variable {p : KeyPath} {name : String} {names : List String} (hp : p.steps = keys (name :: names))

include hp

/-- One more override is one more assignment. -/
lemma ofOverrides_insert {before after : List String} {text : String} {x : Scalar}
    (ht : Assignment.read text = .ok ⟨p, x⟩) (hb : LeadThere before p)
    (ha : LeadElsewhere after p) :
    ofOverrides (before ++ text :: after) =
      (ofOverrides (before ++ after)).map (assignSteps (.scalar none x) · p.steps) := by
  simp only [ofOverrides_eq, List.mapM_append, List.mapM_cons, ht]
  cases hbs : before.mapM Assignment.read with
  | error e => rfl
  | ok bs =>
    cases hcs : after.mapM Assignment.read with
    | error e => rfl
    | ok cs =>
      refine congrArg Except.ok ?_
      simp only [List.map_append, List.map_cons]
      apply ofAssignments_insert hp
      · intro a hmem
        obtain ⟨a, ha', rfl⟩ := List.mem_map.1 hmem
        obtain ⟨text, htext, hread⟩ := exists_of_mem_mapM hbs a ha'
        exact hb text htext a hread
      · intro a hmem
        obtain ⟨a, ha', rfl⟩ := List.mem_map.1 hmem
        obtain ⟨text, htext, hread⟩ := exists_of_mem_mapM hcs a ha'
        exact ha text htext a hread

/-- What overrides give that lead to a path or elsewhere. -/
lemma admits_ofOverrides {texts : List String} {v : Value} (hv : ofOverrides texts = .ok v)
    (h : LeadThere texts p) :
    IsBuilt v ∧ v.Admits p.steps ∧ (LeadElsewhere texts p → v.at? p.steps = none) := by
  rw [ofOverrides_eq, map_eq_ok_iff] at hv
  obtain ⟨as, has, rfl⟩ := hv
  have hread : ∀ a ∈ as.map fun a => (a.path, a.value),
      ∃ text ∈ texts, Assignment.read text = .ok ⟨a.1, a.2⟩ := by
    intro a hmem
    obtain ⟨a, ha, rfl⟩ := List.mem_map.1 hmem
    exact exists_of_mem_mapM has a ha
  have hthere : ∀ a ∈ as.map fun a => (a.path, a.value), a.1 = p ∨ Apart a.1.steps p.steps := by
    intro a hmem
    obtain ⟨text, htext, ha⟩ := hread a hmem
    exact h text htext _ ha
  obtain ⟨hadmits, hnone⟩ := admits_ofAssignments hp hthere
  refine ⟨isBuilt_ofAssignments fun a hmem => ?_, hadmits, fun helse => hnone fun a hmem => ?_⟩
  · obtain ⟨text, -, ha⟩ := hread a hmem
    exact isPlain_of_read ha
  · obtain ⟨text, htext, ha⟩ := hread a hmem
    exact helse text htext _ ha

end Overrides

/-! ### Variables -/

/-- The key of a variable and its value, if its name has the prefix. -/
def readVariable? (namePrefix : String) (e : String × String) : Option (String × Value) :=
  let start := (Text.toLower (namePrefix ++ "_")).toList
  let cs := (Text.toLower e.1).toList
  if start.isPrefixOf cs then
    some (dotted (cs.drop start.length), .scalar (some environmentOrigin) (.str e.2))
  else none

lemma environmentLayer_eq (env : Environment) (namePrefix : String) :
    environmentLayer env namePrefix =
      (env.filterMap (readVariable? namePrefix)).foldl (fun es e => Entries.put es e.1 e.2) [] := by
  rw [environmentLayer, List.foldl_filterMap]
  congr 1
  funext es e
  rw [readVariable?]
  dsimp only
  split_ifs <;> rfl

lemma isSorted_environmentLayer (env : Environment) (namePrefix : String) :
    (environmentLayer env namePrefix).IsSorted := by
  rw [environmentLayer_eq]
  exact List.foldlRecOn (motive := Entries.IsSorted) _ _ .nil fun es hs e _ =>
    Entries.isSorted_put hs e.1 e.2

lemma mem_environmentLayer {env : Environment} {namePrefix : String} {e : String × Value}
    (h : e ∈ environmentLayer env namePrefix) : e ∈ env.filterMap (readVariable? namePrefix) := by
  rw [environmentLayer_eq] at h
  revert h
  refine List.foldlRecOn (motive := fun es => e ∈ es → e ∈ env.filterMap (readVariable? namePrefix))
    _ _ nofun fun es hes e' he' hput => ?_
  rcases Entries.mem_put hput with rfl | hmem
  · exact he'
  · exact hes hmem

/-- A variable whose key no later one has is put last. -/
lemma environmentLayer_insert (before : Environment) {after : Environment}
    {namePrefix key : String} {e : String × String} {v : Value}
    (he : readVariable? namePrefix e = some (key, v))
    (ha : ∀ e ∈ after.filterMap (readVariable? namePrefix), e.1 ≠ key) :
    environmentLayer (before ++ e :: after) namePrefix =
      (environmentLayer (before ++ after) namePrefix).put key v := by
  simp only [environmentLayer_eq, List.filterMap_append, List.filterMap_cons, he,
    List.foldl_append, List.foldl_cons]
  exact foldl_act (f := fun es e => Entries.put es e.1 e.2) _
    (fun e hmem es => Entries.put_comm es (ha e hmem).symm _ _) _

/-- A layer whose keys lead elsewhere with one more value: the value goes over the layer and all
before it. -/
lemma applyLayer_put {es : Entries} (hs : es.IsSorted) {key name : String} {names : List String}
    (hkey : stepsOf key = keys (name :: names)) {x : Value}
    (hx : x.isTable = false) (h : ∀ e ∈ es, e.1 = key ∨ Apart (stepsOf e.1) (stepsOf key))
    (root : Value) :
    applyLayer root (es.put key x) = assignSteps x (applyLayer root es) (keys (name :: names)) := by
  have hact := foldl_eq_of_erase_eq (f := fun root e => assignKey root e.1 e.2)
    (Entries.nodup_keys hs) (Entries.nodup_keys (Entries.isSorted_put hs key x))
    (Entries.mem_put_self es key x) (Entries.erase_put es key x) ?_ ?_ root
  · rw [applyLayer, hact, assignKey_eq, hkey]
    rfl
  · intro e he hne w root
    have hapart := (h e he).resolve_left hne
    simp only [assignKey_eq]
    exact hapart.symm.assignSteps_comm _ _ root
  · intro w root
    simp only [assignKey_eq, hkey]
    exact assignSteps_assignSteps hx _ root name names

/-- Every variable with the prefix has the key or parts from the path. -/
def VariablesLeadThere (env : Environment) (namePrefix key : String) (p : KeyPath) : Prop :=
  ∀ e ∈ env.filterMap (readVariable? namePrefix), e.1 = key ∨ Apart (stepsOf e.1) p.steps

/-- Every variable with the prefix parts from the path. -/
def VariablesLeadElsewhere (env : Environment) (namePrefix : String) (p : KeyPath) : Prop :=
  ∀ e ∈ env.filterMap (readVariable? namePrefix), Apart (stepsOf e.1) p.steps

/-! ### Sources -/

namespace Sources

lemma ofLayers_append_pair (layers : List Entries) (es es' : Entries) :
    ofLayers (layers ++ [es, es']) = applyLayer (applyLayer (ofLayers layers) es) es' := by
  rw [ofLayers, List.foldl_append]
  rfl

variable {s : Sources} {p : KeyPath} {name : String} {names : List String}
  (hp : p.steps = keys (name :: names))

include hp

/-- With one more override its value is assigned in what is resolved. -/
theorem resolve_override {before after : List String} {text : String} {x : Scalar}
    (ht : Assignment.read text = .ok ⟨p, x⟩) (hb : LeadThere before p)
    (ha : LeadElsewhere after p) (env : Environment) (files : FileTree) (formats : Formats) :
    resolve { s with overrides := before ++ text :: after } env files formats =
      (resolve { s with overrides := before ++ after } env files formats).map
        (assignSteps (.scalar none x) · p.steps) := by
  have hplain : IsPlain name := by
    have hhead : p.head = name := by
      simpa [steps, keys] using congrArg List.head? hp
    exact hhead ▸ isPlain_of_read ht
  have hthere : LeadThere (before ++ after) p := by
    intro t htext a hread
    rcases List.mem_append.1 htext with htext | htext
    · exact hb t htext a hread
    · exact .inr (ha t htext a hread)
  simp only [resolve, layers, ofOverrides_insert hp ht hb ha]
  cases ho : ofOverrides (before ++ after) with
  | error e => rfl
  | ok v =>
    obtain ⟨hbuilt, hadmits, -⟩ := admits_ofOverrides hp ho hthere
    rw [hp] at hadmits ⊢
    cases s.subfolders.mapM fun sub => folderLayers formats files (Path.join s.folder sub)
      (effectiveRunMode env s.runMode) with
    | error e => rfl
    | ok folders =>
      refine congrArg Except.ok ?_
      rw [ofLayers_append_pair, ofLayers_append_pair]
      exact applyLayer_assignSteps hbuilt rfl hplain hadmits _

/-- With one more variable its value is assigned in what is resolved, if no override has a value
there. -/
theorem resolve_variable {before after : Environment} {e : String × String} {key : String}
    {x : Value} (he : readVariable? s.namePrefix e = some (key, x)) (hkey : read? key = some p)
    (hrun : e.1 ≠ runModeVariable)
    (hb : VariablesLeadThere before s.namePrefix key p)
    (ha : VariablesLeadElsewhere after s.namePrefix p)
    (ho : LeadElsewhere s.overrides p) (files : FileTree) (formats : Formats) :
    s.resolve (before ++ e :: after) files formats =
      (s.resolve (before ++ after) files formats).map (assignSteps x · p.steps) := by
  have hx : x.isTable = false := by
    rw [readVariable?] at he
    split_ifs at he
    obtain ⟨-, rfl⟩ := Prod.mk.inj (Option.some.inj he)
    rfl
  have hsteps : stepsOf key = p.steps := by rw [stepsOf, hkey]
  have hmode : effectiveRunMode (before ++ e :: after) s.runMode =
      effectiveRunMode (before ++ after) s.runMode := by
    have hne : (runModeVariable == e.1) = false := by simpa using hrun.symm
    rw [effectiveRunMode, effectiveRunMode, List.lookup_append, List.lookup_append,
      List.lookup_cons, hne]
  have hlayer := environmentLayer_insert before he fun e hmem heq =>
    (ha e hmem).ne (by rw [heq, hsteps])
  simp only [resolve, layers, hmode, hlayer]
  cases hov : ofOverrides s.overrides with
  | error e => rfl
  | ok v =>
    have hthere : LeadThere s.overrides p := fun t htext a hread => .inr (ho t htext a hread)
    obtain ⟨hbuilt, hadmits, hnone⟩ := admits_ofOverrides hp hov hthere
    have hnone := hnone ho
    rw [hp] at hadmits hnone ⊢
    cases s.subfolders.mapM fun sub => folderLayers formats files (Path.join s.folder sub)
      (effectiveRunMode (before ++ after) s.runMode) with
    | error e => rfl
    | ok folders =>
      refine congrArg Except.ok ?_
      rw [ofLayers_append_pair, ofLayers_append_pair,
        applyLayer_put (isSorted_environmentLayer ..) (hsteps.trans hp) hx]
      · exact applyLayer_over hbuilt hadmits hnone _
      · intro e hmem
        rw [hsteps]
        have hmem := mem_environmentLayer hmem
        rw [List.filterMap_append] at hmem
        rcases List.mem_append.1 hmem with hmem | hmem
        · exact hb e hmem
        · exact .inr (ha e hmem)

end Sources

end ScrollExport.Config
