import Mathlib.Data.List.Nodup
import ScrollExport.Proofs.Config.Insertion
import ScrollExport.Proofs.Config.KeyText
import ScrollExport.Proofs.Config.Layering
import ScrollExport.Proofs.Config.Typing

/-!
# Overrides of dotted keys

Overrides whose keys part are independent of each other: the configuration has the last value of
each key and nothing else, in whatever order different keys come (`ofOverrides_text`). One override
that cannot be read is the end of all.
-/

namespace ScrollExport.Config

open Value KeyPath

/-- An override of a dotted key: the names of the key, and the text after the first equals sign. -/
structure Override where
  names : List String
  value : String
  names_ne_nil : names ≠ []
  isName : ∀ name ∈ names, IsName name.toList

namespace Override

variable {o o' : Override} {os os' : List Override} {names : List String} {p : List PathStep}
  {v : Value}

def text (o : Override) : String :=
  ".".intercalate o.names ++ "=" ++ o.value

/-- No key stands above another one. -/
def NonePrefix (os : List Override) : Prop :=
  ∀ o ∈ os, ∀ o' ∈ os, o.names <+: o'.names → o.names = o'.names

instance (os : List Override) : Decidable (NonePrefix os) :=
  inferInstanceAs (Decidable (∀ o ∈ os, ∀ o' ∈ os, _ → _))

/-- The text that is assigned last to a key. -/
def lastText (os : List Override) (names : List String) : Option String :=
  (os.filter fun o => o.names = names).getLast?.map Override.value

/-- A configuration with the last value of each key and nothing else: tables on the way to the keys,
without entries that are not found. -/
structure Holds (os : List Override) (v : Value) : Prop where
  isTable : v.isTable = true
  isNormal : v.IsNormal
  last : ∀ names value, lastText os names = some value →
    ∃ x, HasType value x ∧ v.at? (keys names) = some (.scalar none x)
  above : ∀ o ∈ os, ∀ p, p <+: keys o.names → p ≠ keys o.names →
    ∃ w, v.at? p = some w ∧ w.isTable = true
  nothing : ∀ p ≠ [], (∀ o ∈ os, ¬p <+: keys o.names) → v.at? p = none

/-! ### Reading -/

def path (o : Override) : KeyPath :=
  ⟨o.names.head o.names_ne_nil, keys o.names.tail⟩

lemma steps_path (o : Override) : o.path.steps = keys o.names := by
  obtain ⟨names, value, hne, -⟩ := o
  obtain ⟨name, names, rfl⟩ := List.exists_cons_of_ne_nil hne
  rfl

lemma keys_injective : Function.Injective keys :=
  List.map_injective_iff.2 fun _ _ h => PathStep.key.inj h

lemma path_eq_iff : o.path = o'.path ↔ o.names = o'.names := by
  constructor
  · intro h
    exact keys_injective (by rw [← steps_path, ← steps_path, h])
  · intro h
    simp only [path, h]

def assignment (o : Override) : KeyPath × Scalar :=
  (o.path, .ofText o.value)

lemma read_text (o : Override) :
    Assignment.read o.text = .ok ⟨o.path, .ofText o.value⟩ := by
  obtain ⟨names, value, hne, hn⟩ := o
  obtain ⟨name, names, rfl⟩ := List.exists_cons_of_ne_nil hne
  obtain ⟨hname, hnames⟩ := List.forall_mem_cons.1 hn
  let key : List Char := ['.'].intercalate (name.toList :: names.map String.toList)
  have hkey : IsText key ⟨name, keys names⟩ := by
    have hk := isText_intercalate hname (List.forall_mem_map.2 hnames)
    rw [String.ofList_toList, List.map_map] at hk
    simpa [Function.comp_def, keys] using hk
  have heq : '=' ∉ key := by
    have hchar : ∀ name : String, IsName name.toList → '=' ∉ name.toList := fun name hname hmem =>
      absurd (hname.2 _ hmem) (by decide)
    simp only [key, Text.intercalate_cons, List.mem_append, List.mem_flatMap, List.mem_map,
      List.mem_cons, not_or, not_exists, not_and]
    refine ⟨hchar name hname, ?_⟩
    rintro _ ⟨next, hnext, rfl⟩
    exact ⟨by decide, hchar next (hnames next hnext)⟩
  have htext : (".".intercalate (name :: names) ++ "=" ++ value).toList =
      key ++ '=' :: value.toList := by
    simp [key, String.toList_intercalate]
  rw [Assignment.read, text, htext, Text.splitFirst_append heq]
  dsimp only
  rw [read?_eq_some_iff.2 (by rw [String.toList_ofList]; exact hkey), String.ofList_toList]
  rfl

lemma ofOverrides_eq_ofAssignments (os : List Override) :
    ofOverrides (os.map text) = .ok (ofAssignments (os.map assignment)) := by
  have hread : (os.map text).mapM Assignment.read =
      .ok (os.map fun o => ⟨o.path, .ofText o.value⟩) := by
    rw [mapM_eq_ok_iff, List.forall₂_map_left_iff, List.forall₂_map_right_iff, List.forall₂_same]
    exact fun o _ => read_text o
  rw [ofOverrides_eq, hread, Except.map, List.map_map]
  rfl

/-! ### Keys that part -/

lemma apart_keys {names names' : List String} (h : ¬names <+: names') (h' : ¬names' <+: names) :
    Apart (keys names) (keys names') := by
  induction names generalizing names' with
  | nil => exact absurd List.nil_prefix h
  | cons name names ih =>
    cases names' with
    | nil => exact absurd List.nil_prefix h'
    | cons name' names' =>
      by_cases hn : name = name'
      · subst hn
        simp only [List.cons_prefix_cons, true_and] at h h'
        exact .there (ih h h')
      · exact .here hn

lemma NonePrefix.eq_or_apart (h : NonePrefix os) (ho : o ∈ os) (ho' : o' ∈ os) :
    o.path = o'.path ∨ Apart o.path.steps o'.path.steps := by
  rw [path_eq_iff, steps_path, steps_path]
  by_cases hn : o.names = o'.names
  · exact .inl hn
  · exact .inr (apart_keys (fun hp => hn (h o ho o' ho' hp)) fun hp => hn (h o' ho' o ho hp).symm)

/-- The value that an override assigns, at its key. -/
def leaf (o : Override) : Leaf :=
  (keys o.names, .scalar none (.ofText o.value))

/-- The configuration of overrides is assigned one after the other. -/
lemma NonePrefix.ofAssignments_eq (h : NonePrefix os) :
    ofAssignments (os.map assignment) = (os.map leaf).foldl Leaf.assign emptyTable := by
  induction os using List.reverseRecOn with
  | nil => rfl
  | append_singleton os o ih =>
    have hos : NonePrefix os := fun a ha b hb =>
      h a (List.mem_append_left _ ha) b (List.mem_append_left _ hb)
    have hpart : ∀ a ∈ os.map assignment, a.1 = o.path ∨ Apart a.1.steps o.path.steps :=
      List.forall_mem_map.2 fun a ha => h.eq_or_apart (List.mem_append_left _ ha) (by simp)
    obtain ⟨name, names, hn⟩ := List.exists_cons_of_ne_nil o.names_ne_nil
    have hsteps : o.path.steps = keys (name :: names) := by rw [steps_path, hn]
    have hinsert := ofAssignments_insert hsteps hpart (List.forall_mem_nil _) (.ofText o.value)
    rw [List.append_nil, ih hos] at hinsert
    rw [List.map_append, List.map_append, List.foldl_append]
    exact hinsert.trans (by rw [steps_path]; rfl)

lemma lastAt_leaves (os : List Override) (names : List String) :
    lastAt (os.map leaf) (keys names) =
      (lastText os names).map fun value => .scalar none (.ofText value) := by
  have hkeys : ((fun l : Leaf => decide (l.1 = keys names)) ∘ leaf) =
      fun o => decide (o.names = names) := by
    funext o
    simp [leaf, keys_injective.eq_iff]
  rw [lastAt, lastText, List.filter_map, hkeys, List.getLast?_map, Option.map_map, Option.map_map]
  rfl

/-! ### What is held -/

lemma at?_append (v : Value) (p q : List PathStep) :
    v.at? (p ++ q) = (v.at? p).bind (·.at? q) := by
  induction p generalizing v with
  | nil => rfl
  | cons s p ih =>
    cases s with
    | key name =>
      rw [List.cons_append, at?, at?, Option.bind_assoc]
      exact congrArg _ (funext ih)
    | index i =>
      rw [List.cons_append, at?, at?, Option.bind_assoc]
      exact congrArg _ (funext ih)

lemma at?_scalar (x : Scalar) (s : PathStep) (p : List PathStep) :
    (Value.scalar none x).at? (s :: p) = none := by
  cases s <;> rfl

lemma exists_lastText (ho : o ∈ os) : ∃ value, lastText os o.names = some value := by
  rw [← Option.isSome_iff_exists, lastText, Option.isSome_map, Option.isSome_iff_ne_none, ne_eq,
    List.getLast?_eq_none_iff]
  exact List.ne_nil_of_mem (List.mem_filter.2 ⟨ho, by simp⟩)

lemma exists_of_lastText {value : String} (h : lastText os names = some value) :
    ∃ o ∈ os, o.names = names := by
  obtain ⟨o, ho, -⟩ := Option.map_eq_some_iff.1 h
  have hmem := List.mem_filter.1 (List.mem_of_mem_getLast? ho)
  exact ⟨o, hmem.1, by simpa using hmem.2⟩

/-- A path that is no part of a key, and no key is part of, has nothing to do with its value. -/
lemma spares_of_not_prefix (h : ¬p <+: keys names) (h' : ¬keys names <+: p) (x : Scalar) :
    Spares (keys names) (.scalar none x) p := by
  apply spares_of_forall_ne
  · exact nofun
  · exact fun _ => rfl
  · exact fun name rest he => h ⟨_, he.symm⟩
  · intro p' _ i rest he
    have hi : PathStep.index i ∈ keys names := by simp [he]
    simp [keys] at hi
  · rintro p' hp' _ rfl
    exact absurd hp' h'

/-- What has something below a key is a table. -/
lemma isTable_of_at?_keys {w : Value} {q : List PathStep} (hq : q ≠ []) (hk : q <:+ keys names)
    (h : w.at? q = some v) : w.isTable = true := by
  obtain ⟨s, q, rfl⟩ := List.exists_cons_of_ne_nil hq
  obtain ⟨name, -, rfl⟩ := List.mem_map.1 (hk.subset (List.mem_cons_self ..))
  cases w with
  | table => rfl
  | scalar | arr => cases h

variable (hpart : NonePrefix os)

include hpart

lemma NonePrefix.at?_eq (hne : p ≠ [])
    (hs : ∀ o ∈ os, Spares (keys o.names) (.scalar none (.ofText o.value)) p) :
    (ofAssignments (os.map assignment)).at? p = lastAt (os.map leaf) p := by
  have hls : ∀ l ∈ os.map leaf, l.1 ≠ [] ∧ Spares l.1 l.2 p :=
    List.forall_mem_map.2 fun o ho => ⟨by simpa [leaf, keys] using o.names_ne_nil, hs o ho⟩
  obtain ⟨s, q, rfl⟩ := List.exists_cons_of_ne_nil hne
  rw [hpart.ofAssignments_eq, (at?_foldl_assign hne hls (admits_emptyTable _)).1, at?_emptyTable,
    Option.or_none]

/-- Each key has the value that is assigned last to it. -/
lemma NonePrefix.at?_keys (ho : o ∈ os) :
    (ofAssignments (os.map assignment)).at? (keys o.names) =
      (lastText os o.names).map fun value => .scalar none (.ofText value) := by
  rw [hpart.at?_eq (by simpa [keys] using o.names_ne_nil), lastAt_leaves]
  intro o' ho'
  rcases hpart.eq_or_apart ho' ho with he | he
  · rw [path_eq_iff.1 he]
    exact spares_keys rfl _
  · rw [← steps_path, ← steps_path]
    exact he.spares _

lemma NonePrefix.holds : Holds os (ofAssignments (os.map assignment)) := by
  have hbuilt : IsBuilt (ofAssignments (os.map assignment)) :=
    isBuilt_ofAssignments (List.forall_mem_map.2 fun o _ => isPlain_of_read (read_text o))
  refine ⟨hbuilt.isTable, hbuilt.isNormal, ?_, ?_, ?_⟩
  · intro names value hlast
    obtain ⟨o, ho, rfl⟩ := exists_of_lastText hlast
    rw [hpart.at?_keys ho, hlast]
    exact ⟨_, Scalar.ofText_eq_iff.1 rfl, rfl⟩
  · rintro o ho p ⟨q, hq⟩ hne
    obtain ⟨value, hvalue⟩ := exists_lastText ho
    have hat := hpart.at?_keys ho
    rw [hvalue, ← hq, at?_append] at hat
    obtain ⟨w, hw, hat⟩ := Option.bind_eq_some_iff.1 hat
    have hq' : q ≠ [] := by
      rintro rfl
      exact hne (by rw [← hq, List.append_nil])
    exact ⟨w, hw, isTable_of_at?_keys hq' ⟨p, hq⟩ hat⟩
  · intro p hne hnot
    by_cases hbelow : ∃ o ∈ os, keys o.names <+: p
    · obtain ⟨o, ho, q, rfl⟩ := hbelow
      obtain ⟨value, hvalue⟩ := exists_lastText ho
      rw [at?_append, hpart.at?_keys ho, hvalue]
      cases q with
      | nil => exact absurd (by simp) (hnot o ho)
      | cons s q => exact at?_scalar _ s q
    · have hnone : ∀ o ∈ os, ¬keys o.names <+: p := fun o ho hp => hbelow ⟨o, ho, hp⟩
      rw [hpart.at?_eq hne fun o ho => spares_of_not_prefix (hnot o ho) (hnone o ho) _, lastAt,
        List.filter_eq_nil_iff.2]
      · rfl
      · refine List.forall_mem_map.2 fun o ho => ?_
        rw [decide_eq_true_eq]
        rintro rfl
        exact hnot o ho List.prefix_rfl

/-! ### Reordering -/

omit hpart in
lemma filter_path_eq (h : ∀ names, (os'.filter fun o => o.names = names) =
      os.filter fun o => o.names = names) (path : KeyPath) :
    (os'.filter fun o => o.path = path) = os.filter fun o => o.path = path := by
  by_cases hpath : ∃ o : Override, o.path = path
  · obtain ⟨o, rfl⟩ := hpath
    simp only [path_eq_iff, h o.names]
  · have hne : ∀ o : Override, o.path ≠ path := fun o he => hpath ⟨o, he⟩
    simp [hne]

omit hpart in
/-- Each path has the same last assignment. -/
lemma perm_ofList (h : ∀ names, (os'.filter fun o => o.names = names) =
      os.filter fun o => o.names = names) :
    (Keyed.ofList (os'.map assignment)).Perm (Keyed.ofList (os.map assignment)) := by
  have hfilter : ∀ (os : List Override) (path : KeyPath),
      ((os.map assignment).filter fun a => a.1 = path) =
        (os.filter fun o => o.path = path).map assignment := fun os path => List.filter_map ..
  have hget : ∀ path, Keyed.get? (Keyed.ofList (os'.map assignment)) path =
      Keyed.get? (Keyed.ofList (os.map assignment)) path := by
    intro path
    rw [Keyed.get?_ofList, Keyed.get?_ofList, hfilter, hfilter, filter_path_eq h]
  have hn := Keyed.nodup_ofList (os.map assignment)
  have hn' := Keyed.nodup_ofList (os'.map assignment)
  rw [List.perm_ext_iff_of_nodup (List.Nodup.of_map _ hn') (List.Nodup.of_map _ hn)]
  rintro ⟨path, x⟩
  rw [← Keyed.get?_eq_some_iff hn', ← Keyed.get?_eq_some_iff hn, hget]

/-- Assignments to different keys can change places. -/
lemma NonePrefix.ofAssignments_reorder (h : ∀ names, (os'.filter fun o => o.names = names) =
      os.filter fun o => o.names = names) :
    ofAssignments (os'.map assignment) = ofAssignments (os.map assignment) := by
  refine ((perm_ofList h).symm.foldl_eq' ?_ _).symm
  intro a ha b hb root
  have hn := Keyed.nodup_ofList (os.map assignment)
  obtain ⟨o, ho, hoa⟩ := List.mem_map.1 (Keyed.mem_of_mem_ofList ha)
  obtain ⟨o', ho', hob⟩ := List.mem_map.1 (Keyed.mem_of_mem_ofList hb)
  have hpaths : a.1 = b.1 ∨ Apart a.1.steps b.1.steps := by
    rw [← hoa, ← hob]
    exact hpart.eq_or_apart ho ho'
  rcases hpaths with he | he
  · -- one key stands only once in the list
    obtain ⟨path, x⟩ := a
    obtain ⟨path, y⟩ := b
    obtain rfl : _ = path := he
    rw [← Keyed.get?_eq_some_iff hn] at ha hb
    rw [Option.some.inj (ha.symm.trans hb)]
  · exact he.assignSteps_comm _ _ root

end Override

/-! ### Overrides that cannot be read -/

lemma exists_error_of_ne_ok {ε α : Type} {x : Except ε α} (h : ∀ a, x ≠ .ok a) :
    ∃ e, x = .error e := by
  cases x with
  | error e => exact ⟨e, rfl⟩
  | ok a => exact absurd rfl (h a)

/-- A text without an equals sign, or with something before the first one that is no text of a
path. -/
def IsUnreadable (text : String) : Prop :=
  '=' ∉ text.toList ∨
    ∃ key value, text.toList = key ++ '=' :: value ∧ '=' ∉ key ∧ ∀ p, ¬IsText key p

lemma IsUnreadable.read_ne_ok {text : String} (h : IsUnreadable text) (a : Assignment) :
    Assignment.read text ≠ .ok a := by
  rw [Assignment.read]
  rcases h with h | ⟨key, value, htext, heq, hkey⟩
  · rw [Text.splitFirst_eq_none h]
    simp
  · have hread : read? (String.ofList key) = none := by
      refine Option.eq_none_iff_forall_not_mem.2 fun p hp => hkey p ?_
      simpa using read?_eq_some_iff.1 hp
    rw [htext, Text.splitFirst_append heq]
    dsimp only
    rw [hread]
    simp

lemma ofOverrides_ne_ok {texts : List String} {text : String} (hm : text ∈ texts)
    (h : IsUnreadable text) (v : Value) : ofOverrides texts ≠ .ok v := by
  rw [ofOverrides_eq, ne_eq, map_eq_ok_iff]
  rintro ⟨as, has, -⟩
  obtain ⟨i, hi, rfl⟩ := List.getElem_of_mem hm
  have hf := mapM_eq_ok_iff.1 has
  exact h.read_ne_ok _ (hf.get hi (hf.length_eq ▸ hi))

lemma Sources.resolve_ne_ok {s : Sources} {text : String} (hm : text ∈ s.overrides)
    (h : IsUnreadable text) (env : Environment) (files : FileTree) (formats : Formats) (v : Value) :
    s.resolve env files formats ≠ .ok v := by
  rw [ne_eq, Sources.resolve_eq_ok_iff]
  rintro ⟨layers, ⟨folders, overrides, -, ho, -⟩, -⟩
  exact ofOverrides_ne_ok hm h _ ho

lemma settings_resolve_ne_ok {r : Settings.Request} {text : String} (hm : text ∈ r.overrides)
    (h : IsUnreadable text) (env : Environment) (files : FileTree) (formats : Formats)
    (s : Settings) : Settings.resolve r env files formats ≠ .ok s := by
  rw [Settings.resolve, configuration_eq_resolve]
  cases hr : r.sources.resolve env files formats with
  | error e => exact nofun
  | ok v => exact absurd hr (Sources.resolve_ne_ok (s := r.sources) hm h env files formats v)

/-- Overrides of keys that part give the last value of each key and nothing else, in whatever order
different keys come. With one that cannot be read nothing is given or resolved. -/
theorem ofOverrides_text (os : List Override) (h : Override.NonePrefix os) :
    (∃ v, ofOverrides (os.map Override.text) = .ok v ∧ Override.Holds os v) ∧
    (∀ os' : List Override, (∀ names, (os'.filter fun o => o.names = names) =
        os.filter fun o => o.names = names) →
      ofOverrides (os'.map Override.text) = ofOverrides (os.map Override.text)) ∧
    ∀ texts text, text ∈ texts → IsUnreadable text →
      (∃ e, ofOverrides texts = .error e) ∧
      (∀ (s : Sources) env files formats, s.overrides = texts →
        ∃ e, s.resolve env files formats = .error e) ∧
      ∀ (r : Settings.Request) env files formats, r.overrides = texts →
        ∃ e, Settings.resolve r env files formats = .error e := by
  refine ⟨⟨_, Override.ofOverrides_eq_ofAssignments os, h.holds⟩, ?_, ?_⟩
  · intro os' hos
    rw [Override.ofOverrides_eq_ofAssignments, Override.ofOverrides_eq_ofAssignments,
      h.ofAssignments_reorder hos]
  · intro texts text hm ht
    refine ⟨?_, ?_, ?_⟩
    · exact exists_error_of_ne_ok (ofOverrides_ne_ok hm ht)
    · rintro s env files formats rfl
      exact exists_error_of_ne_ok (Sources.resolve_ne_ok hm ht env files formats)
    · rintro r env files formats rfl
      exact exists_error_of_ne_ok (settings_resolve_ne_ok hm ht env files formats)

/-- The greatest signed word is a whole number, and one more is a binary number; the last one of a
key counts, and a text keeps all equals signs but the first. -/
theorem ofOverrides_text_of_last :
    let greatest : Override := ⟨["a", "b"], "9223372036854775807", by decide, by decide⟩
    let above : Override := ⟨["a", "b"], "9223372036854775808", by decide, by decide⟩
    let text : Override := ⟨["a", "c"], "x=y", by decide, by decide⟩
    Override.NonePrefix [greatest, text, above] ∧
      (∃ v, ofOverrides ["a.b=9223372036854775807", "a.c=x=y", "a.b=9223372036854775808"] = .ok v ∧
        v.at? [.key "a", .key "b"] = some (.scalar none (.float (.finite false (2 ^ 52) 11))) ∧
        v.at? [.key "a", .key "c"] = some (.scalar none (.str "x=y"))) ∧
      (∃ v, ofOverrides ["a.b=9223372036854775808", "a.b=9223372036854775807"] = .ok v ∧
        v.at? [.key "a", .key "b"] = some (.scalar none (.int 9223372036854775807))) ∧
      ∃ e, ofOverrides ["a.b=1", "a.c"] = .error e := by
  intro greatest above text
  have hpart : Override.NonePrefix [greatest, text, above] := by decide
  have hpart' : Override.NonePrefix [above, greatest] := by decide
  obtain ⟨⟨v, hv, hholds⟩, -, hbad⟩ := ofOverrides_text _ hpart
  obtain ⟨⟨v', hv', hholds'⟩, -, -⟩ := ofOverrides_text _ hpart'
  have hat {os : List Override} {v : Value} (hholds : Override.Holds os v) (names : List String)
      {value : String} (hlast : Override.lastText os names = some value) {x : Scalar}
      (hx : Scalar.ofText value = x) : v.at? (keys names) = some (.scalar none x) := by
    obtain ⟨y, hy, hat⟩ := hholds.last _ _ hlast
    rw [hat, ← hx, Scalar.ofText_eq_iff.2 hy]
  refine ⟨hpart, ⟨v, hv, hat hholds ["a", "b"] rfl ?_, hat hholds ["a", "c"] rfl ?_⟩,
    ⟨v', hv', hat hholds' ["a", "b"] rfl ?_⟩,
    (hbad ["a.b=1", "a.c"] "a.c" (by decide) (.inl (by decide))).1⟩
  · decide +kernel
  · decide +kernel
  · decide +kernel

end ScrollExport.Config
