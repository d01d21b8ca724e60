import Mathlib.Data.List.Forall2
import Mathlib.Data.List.Perm.Basic
import ScrollExport.Proofs.Json.Nesting
import ScrollExport.Proofs.Json.Rendering
import ScrollExport.Search.Response

/-!
# Decoding responses

What a response carries is decoded from it, in whatever order the members of its objects come and
whatever other members stand among them, as long as what is read as a value is not nested too deep
and has a value (`Response.read?_of_carries`).
-/

namespace ScrollExport.Search

open Json (Tree)

/-! ### What is carried -/

/-- An object with the given members in any order, and others among them whose names are not among
the given ones. -/
def IsObject (names : List String) (known : List (String × Tree)) (t : Tree) : Prop :=
  ∃ members others : List (String × Tree), t = .obj (members.map fun m => (some m.1, m.2)) ∧
    members.Perm (known ++ others) ∧ ∀ m ∈ others, m.1 ∉ names

/-- A member that may be missing. -/
def optional (name : String) (t : Option Tree) : List (String × Tree) :=
  t.toList.map (name, ·)

/-- A text that may be missing or null. -/
inductive CarriesText : Option String → Option Tree → Prop where
  | missing : CarriesText none none
  | null : CarriesText none (some .null)
  | text (s : String) : CarriesText (some s) (some (.text (some s)))

/-- A count that may be missing or null, or stand in an object with a relation. -/
inductive CarriesCount : Option Nat → Option Tree → Prop where
  | missing : CarriesCount none none
  | null : CarriesCount none (some .null)
  | plain {n : Nat} (hn : n < 2 ^ 64) : CarriesCount (some n) (some (.number (.ofInt n)))
  | object {n : Nat} {relation : Option String} {relationTree : Option Tree} {t : Tree}
    (hn : n < 2 ^ 64) (hr : CarriesText relation relationTree)
    (ht : IsObject ["value", "relation"]
      (("value", .number (.ofInt n)) :: optional "relation" relationTree) t) :
    CarriesCount (some n) (some t)

/-- A value, and the tree that it is read from. -/
structure Source where
  tree : Tree
  value : Json
  reads : Json.ofTree? none tree = some value

structure CarriedHit where
  id : String
  source : Option Source

structure CarriedTotal where
  count : Option Nat
  tree : Option Tree
  carries : CarriesCount count tree

/-- What a page is made of. -/
structure Contents where
  cursor : Option String
  total : CarriedTotal
  hits : List CarriedHit

namespace CarriedHit

def IsTree (h : CarriedHit) (t : Tree) : Prop :=
  IsObject ["_id", "_source"]
    (("_id", .text (some h.id)) :: optional "_source" (h.source.map Source.tree)) t

/-- The fields of the record of a hit. -/
def fields (h : CarriedHit) : List (String × Json) :=
  match h.source.map Source.value with
  | none | some .null => []
  | some (.obj members) => members
  | some v => [("_source", v)]

end CarriedHit

namespace Contents

/-- An object that carries the total and the hits in order. -/
def AreHits (c : Contents) (t : Tree) : Prop :=
  ∃ items, List.Forall₂ CarriedHit.IsTree c.hits items ∧
    IsObject ["hits", "total"] (("hits", .arr items) :: optional "total" c.total.tree) t

/-- An object that carries the cursor, the total and the hits in order. -/
def IsTree (c : Contents) (t : Tree) : Prop :=
  ∃ cursor hits, CarriesText c.cursor cursor ∧ c.AreHits hits ∧
    IsObject ["hits", "_scroll_id"] (("hits", hits) :: optional "_scroll_id" cursor) t

/-- A source is nested at most 123 deep, and the total has a value of at most 125. -/
structure IsWithinLimits (c : Contents) : Prop where
  source : ∀ h ∈ c.hits, ∀ s ∈ h.source, s.tree.depth ≤ 123
  total : ∀ t ∈ c.total.tree, t.depth ≤ 125 ∧ ∃ v, Json.ofTree? none t = some v

end Contents

/-! ### Members -/

section Members

variable {names : List String} {known : List (String × Tree)} {t : Tree} {name key : String}

lemma filter_of_nodup (hn : (known.map Prod.fst).Nodup) (key : String) :
    (known.filter fun m => m.1 = key) = (Keyed.get? known key).toList.map (key, ·) := by
  induction known with
  | nil => rfl
  | cons m known ih =>
    obtain ⟨name, t⟩ := m
    obtain ⟨hm, hknown⟩ := List.nodup_cons.1 hn
    rw [Keyed.get?_cons]
    split_ifs with hk
    · subst hk
      rw [List.filter_cons_of_pos (by simp), ih hknown, Keyed.get?_eq_none_iff.2 hm]
      rfl
    · rw [List.filter_cons_of_neg (by simpa using Ne.symm hk), ih hknown]

/-- A known member is found in an object that has it, and is missing in any other one. -/
lemma IsObject.exists_members (h : IsObject names known t) (hn : (known.map Prod.fst).Nodup) :
    ∃ members, t = .obj members ∧ Response.hasTextKeys members = true ∧
      ∀ key ∈ names, Response.member? members key = some (Keyed.get? known key) := by
  obtain ⟨members, others, rfl, hp, ho⟩ := h
  refine ⟨_, rfl, by simp [Response.hasTextKeys], fun key hkey => ?_⟩
  have hothers : (others.filter fun m => m.1 = key) = [] := by
    rw [List.filter_eq_nil_iff]
    rintro m hm hmk
    rw [decide_eq_true_eq] at hmk
    exact ho m hm (hmk ▸ hkey)
  have hfilter := hp.filter fun m => m.1 = key
  rw [List.filter_append, hothers, List.append_nil, filter_of_nodup hn] at hfilter
  have hkeys : ((fun m : Option String × Tree => decide (m.1 = some key)) ∘
      fun m : String × Tree => (some m.1, m.2)) = fun m => decide (m.1 = key) := by
    funext m
    simp
  rw [Response.member?, List.filter_map, hkeys]
  cases hget : Keyed.get? known key with
  | none =>
    rw [hget] at hfilter
    rw [hfilter.eq_nil]
    rfl
  | some t =>
    rw [hget] at hfilter
    rw [List.perm_singleton.1 hfilter]
    rfl

/-- An object with one member that is there, and one that may be missing. -/
lemma IsObject.exists_pair {u : Tree} {o : Option Tree}
    (h : IsObject [name, key] ((name, u) :: optional key o) t) (hne : name ≠ key) :
    ∃ members, t = .obj members ∧ Response.hasTextKeys members = true ∧
      Response.required? members name = some u ∧ Response.member? members key = some o := by
  have hn : ((((name, u) :: optional key o)).map Prod.fst).Nodup := by
    cases o <;> simp [optional, hne]
  obtain ⟨members, rfl, ht, hm⟩ := h.exists_members hn
  refine ⟨members, rfl, ht, ?_, ?_⟩
  · rw [Response.required?, hm name (by simp), Keyed.get?_cons, if_pos rfl]
    rfl
  · rw [hm key (by simp), Keyed.get?_cons, if_neg hne.symm]
    cases o <;> simp [optional, Keyed.get?]

end Members

/-! ### Leaves -/

variable {t : Tree} {tree : Option Tree}

lemma count?_ofInt {n : Nat} (hn : n < 2 ^ 64) : Response.count? (.number (.ofInt n)) = some n := by
  have hw : Json.Numeral.FitsWord n := by
    have hb : Number.unsignedBound = 2 ^ 64 := Nat.pow_eq ..
    rw [← hb] at hn
    exact .inr (by simpa [Number.fitsUnsigned] using hn)
  rw [Response.count?, Json.Numeral.value?_ofInt hw]
  simp

lemma total?_of_ne_null (h : t ≠ .null) {n : Nat} (hn : Response.totalValue? t = some n)
    {x : Option Nat} :
    Response.total? (some t) = some x ↔
      x = some n ∧ t.depth ≤ 125 ∧ ∃ v, Json.ofTree? none t = some v := by
  have ht : Response.total? (some t) =
      (Json.ofTree? (some 125) t).bind fun _ => (Response.totalValue? t).map some := by
    rw [Response.total?]
    · rfl
    · simpa using h
  rw [ht, hn]
  simp only [Option.bind_eq_some_iff, Json.ofTree?_some_iff, Option.map_some, Option.some_inj]
  constructor
  · rintro ⟨v, ⟨hv, hd⟩, rfl⟩
    exact ⟨rfl, hd, v, hv⟩
  · rintro ⟨rfl, hd, v, hv⟩
    exact ⟨v, ⟨hv, hd⟩, rfl⟩

/-- The relation is of no account to the total. -/
lemma totalValue?_obj {members : List (Option String × Tree)} {relation : Option String}
    (hvalue : Response.required? members "value" = some t)
    (hrelation : Response.member? members "relation" = some tree)
    (hr : CarriesText relation tree) :
    Response.totalValue? (.obj members) = Response.count? t := by
  rw [Response.totalValue?, hrelation, hvalue]
  cases hr <;> rfl

lemma CarriesCount.total?_eq_some_iff {n x : Option Nat} (h : CarriesCount n tree) :
    Response.total? tree = some x ↔
      x = n ∧ ∀ t ∈ tree, t.depth ≤ 125 ∧ ∃ v, Json.ofTree? none t = some v := by
  cases h with
  | missing => simp [Response.total?, eq_comm]
  | null => simp [Response.total?, Tree.depth, Json.ofTree?, eq_comm]
  | @plain n hn =>
    have hcount : Response.totalValue? (.number (.ofInt n)) = some n := by
      rw [Response.totalValue?, count?_ofInt hn]
      simp
    simpa using total?_of_ne_null (by simp) hcount
  | @object n _ _ _ hn hr ht =>
    obtain ⟨members, rfl, -, hvalue, hrelation⟩ := ht.exists_pair (by decide)
    have hcount : Response.totalValue? (.obj members) = some n := by
      rw [totalValue?_obj hvalue hrelation hr, count?_ofInt hn]
    simpa using total?_of_ne_null (by simp) hcount

/-! ### Hits -/

namespace CarriedHit

/-- The hit that is decoded. -/
def decoded (h : CarriedHit) : Hit :=
  ⟨h.id, (h.source.map Source.value).getD .null⟩

lemma source?_eq_some_iff {s : Option Source} {v : Json} :
    Response.source? (s.map Source.tree) = some v ↔
      v = (s.map Source.value).getD .null ∧ ∀ s' ∈ s, s'.tree.depth ≤ 123 := by
  cases s with
  | none => simp [Response.source?, eq_comm]
  | some s =>
    have hs : Response.source? (some s.tree) = Json.ofTree? (some 123) s.tree := rfl
    rw [Option.map_some, hs, Json.ofTree?_some_iff, s.reads]
    simp [eq_comm]

lemma IsTree.hit?_eq_some_iff {h : CarriedHit} (ht : h.IsTree t) {x : Hit} :
    Response.hit? t = some x ↔ x = h.decoded ∧ ∀ s ∈ h.source, s.tree.depth ≤ 123 := by
  obtain ⟨members, rfl, hkeys, hid, hsource⟩ := ht.exists_pair (by decide)
  simp only [Response.hit?, hkeys, hid, hsource, Response.text?, Option.bind_eq_bind,
    Option.bind_some, Bool.not_true, Bool.false_eq_true, if_false, Option.bind_eq_some_iff,
    source?_eq_some_iff]
  constructor
  · rintro ⟨v, ⟨rfl, hd⟩, hx⟩
    exact ⟨(Option.some.inj hx).symm, hd⟩
  · rintro ⟨rfl, hd⟩
    exact ⟨_, ⟨rfl, hd⟩, rfl⟩

end CarriedHit

lemma mapM_hit?_eq_some_iff {hits : List CarriedHit} {items : List Tree}
    (h : List.Forall₂ CarriedHit.IsTree hits items) {xs : List Hit} :
    items.mapM Response.hit? = some xs ↔
      xs = hits.map CarriedHit.decoded ∧ ∀ h ∈ hits, ∀ s ∈ h.source, s.tree.depth ≤ 123 := by
  induction h generalizing xs with
  | nil => simp [eq_comm]
  | cons ht hs ih =>
    simp only [List.mapM_cons, Option.bind_eq_bind, Option.bind_eq_some_iff, Option.pure_def,
      Option.some_inj, ht.hit?_eq_some_iff, ih, List.map_cons, List.forall_mem_cons]
    constructor
    · rintro ⟨x, ⟨rfl, hd⟩, xs, ⟨rfl, hds⟩, rfl⟩
      exact ⟨rfl, hd, hds⟩
    · rintro ⟨rfl, hd, hds⟩
      exact ⟨_, ⟨rfl, hd⟩, _, ⟨rfl, hds⟩, rfl⟩

/-! ### Responses -/

namespace Contents

variable {c : Contents}

/-- The response that is decoded. -/
def decoded (c : Contents) : Response :=
  ⟨c.cursor, c.total.count, c.hits.map CarriedHit.decoded⟩

lemma AreHits.hits?_eq_some_iff (h : c.AreHits t) {x : Option Nat × List Hit} :
    Response.hits? t = some x ↔
      x = (c.total.count, c.hits.map CarriedHit.decoded) ∧ c.IsWithinLimits := by
  obtain ⟨items, hitems, ht⟩ := h
  obtain ⟨members, rfl, hkeys, hhits, htotal⟩ := ht.exists_pair (by decide)
  simp only [Response.hits?, hkeys, hhits, htotal, Response.hitList?, Option.bind_eq_bind,
    Option.bind_some, Bool.not_true, Bool.false_eq_true, if_false, Option.bind_eq_some_iff,
    c.total.carries.total?_eq_some_iff, mapM_hit?_eq_some_iff hitems]
  constructor
  · rintro ⟨n, ⟨rfl, hlimit⟩, xs, ⟨rfl, hd⟩, hx⟩
    exact ⟨(Option.some.inj hx).symm, hd, hlimit⟩
  · rintro ⟨rfl, hd, hlimit⟩
    exact ⟨_, ⟨rfl, hlimit⟩, _, ⟨rfl, hd⟩, rfl⟩

lemma IsTree.ofTree?_eq_some_iff (h : c.IsTree t) {r : Response} :
    Response.ofTree? t = some r ↔ r = c.decoded ∧ c.IsWithinLimits := by
  obtain ⟨cursor, hits, hcursor, hhits, ht⟩ := h
  obtain ⟨members, rfl, hkeys, hh, hc⟩ := ht.exists_pair (by decide)
  have hread : Response.ofTree? (.obj members) =
      (Response.hits? hits).bind fun x => some ⟨c.cursor, x.1, x.2⟩ := by
    simp only [Response.ofTree?, hkeys, hh, hc]
    generalize c.cursor = s at hcursor
    cases hcursor <;> rfl
  simp only [hread, Option.bind_eq_some_iff, hhits.hits?_eq_some_iff]
  constructor
  · rintro ⟨x, ⟨rfl, hlimit⟩, hr⟩
    exact ⟨(Option.some.inj hr).symm, hlimit⟩
  · rintro ⟨rfl, hlimit⟩
    exact ⟨_, ⟨rfl, hlimit⟩, rfl⟩

end Contents

/-- The record that is made of a hit. -/
def CarriedHit.record (h : CarriedHit) : Record :=
  .ofSource h.decoded.id h.decoded.source

lemma CarriedHit.id_record (h : CarriedHit) : h.record.id = h.id := by
  rw [record]
  cases h.decoded.source <;> rfl

lemma CarriedHit.fields_record (h : CarriedHit) : h.record.fields = h.fields := by
  obtain ⟨id, source⟩ := h
  cases source with
  | none => rfl
  | some s =>
    obtain ⟨tree, value, reads⟩ := s
    cases value with
    | obj members =>
      cases Json.hasDistinctKeys_of_ofTree? reads with
      | obj hn _ => exact Keyed.ofList_of_nodup hn
    | _ => rfl

lemma Contents.page?_decoded (c : Contents) :
    c.decoded.page? = c.cursor.map fun cursor =>
      ⟨cursor, c.total.count, c.hits.map CarriedHit.record⟩ := by
  rw [Response.page?, decoded, List.map_map]
  rfl

lemma Response.read?_eq_some_iff {c : Contents} {body : String}
    (hbody : Tree.ofChars? body.toList = some t) (hc : c.IsTree t) {r : Response} :
    read? body = some r ↔ r = c.decoded ∧ c.IsWithinLimits := by
  rw [read?, hbody, Option.bind_some, hc.ofTree?_eq_some_iff]

/-- What a body carries is decoded from it exactly if it is within the limits. The page has its
cursor, its total and a record for each hit in order; without a cursor there is no page. -/
theorem Response.read?_of_carries {c : Contents} {body : String} {t : Tree}
    (hbody : Tree.ofChars? body.toList = some t) (hc : c.IsTree t) :
    ((∃ r, read? body = some r) ↔ c.IsWithinLimits) ∧
    ∀ r, read? body = some r →
      (c.cursor = none → r.page? = none) ∧
      ∀ cursor, c.cursor = some cursor →
        ∃ page, r.page? = some page ∧ page.cursor = cursor ∧ page.total = c.total.count ∧
          List.Forall₂ (fun h record => record.id = h.id ∧ record.fields = h.fields)
            c.hits page.records := by
  constructor
  · simp [read?_eq_some_iff hbody hc]
  · intro r hr
    obtain ⟨rfl, -⟩ := (read?_eq_some_iff hbody hc).1 hr
    rw [c.page?_decoded]
    constructor
    · intro hcursor
      rw [hcursor, Option.map_none]
    · intro cursor hcursor
      refine ⟨_, by rw [hcursor, Option.map_some], rfl, rfl, ?_⟩
      rw [List.forall₂_map_right_iff, List.forall₂_same]
      exact fun h _ => ⟨h.id_record, h.fields_record⟩

/-- Members in an unusual order, and one more in each object. -/
theorem Response.read?_of_shuffled :
    let total : Json := .obj [("exact", .bool true), ("relation", .str "eq"), ("value", .int 2)]
    let hit : Json := .obj [("_index", .str "logs"), ("_source", .obj [("b", .int 1)]),
      ("_id", .str "x")]
    let body := Json.compact (.obj [("took", .int 1), ("hits", .obj [("max_score", .null),
      ("hits", .arr [hit]), ("total", total)]), ("_scroll_id", .str "c")])
    ∃ (c : Contents) (t : Tree), Tree.ofChars? body.toList = some t ∧ c.IsTree t ∧
      ∃ r page record, read? body = some r ∧ r.page? = some page ∧ page.cursor = "c" ∧
        page.total = some 2 ∧ page.records = [record] ∧ record.id = "x" ∧
        record.fields = [("b", .int 1)] := by
  intro total hit body
  have hnumber : ∀ n ∈ [(1 : Int), 2], (Json.Numeral.ofInt n).value? = some (.int n) :=
    fun n hn => Json.Numeral.value?_ofInt (by revert n; decide)
  have hsource : Json.ofTree? none (.obj [(some "b", .number (.ofInt 1))]) =
      some (.obj [("b", .int 1)]) := by
    simp [Json.ofTree?, Json.deeper?, Json.ofMembers?, hnumber, Keyed.ofList, Keyed.put]
  have hbody : Tree.ofChars? body.toList = some (Tree.ofJson _) := Tree.ofChars?_compact _
  simp only [total, hit, Tree.ofJson, List.map_cons, List.map_nil] at hbody
  have htotal : CarriesCount (some 2) (some (.obj [(some "exact", .bool true),
      (some "relation", .text (some "eq")), (some "value", .number (.ofInt 2))])) :=
    @CarriesCount.object 2 (some "eq") _ _ (by decide) (.text "eq")
      ⟨[("exact", _), ("relation", _), ("value", _)], [("exact", _)], rfl,
        List.reverse_perm [("value", _), ("relation", _), ("exact", _)], by simp⟩
  let carried : CarriedHit := ⟨"x", some ⟨_, _, hsource⟩⟩
  let c : Contents := ⟨some "c", ⟨_, _, htotal⟩, [carried]⟩
  have hhit : carried.IsTree (.obj [(some "_index", .text (some "logs")), (some "_source", _),
      (some "_id", .text (some "x"))]) :=
    ⟨[("_index", _), ("_source", _), ("_id", _)], [("_index", _)], rfl,
      List.reverse_perm [("_id", _), ("_source", _), ("_index", _)], by simp⟩
  have hhits : c.AreHits (.obj [(some "max_score", .null), (some "hits", .arr [_]),
      (some "total", _)]) :=
    ⟨_, .cons hhit .nil, [("max_score", _), ("hits", _), ("total", _)], [("max_score", _)], rfl,
      @List.perm_append_comm _ [_] _, by simp⟩
  have hc : c.IsTree _ :=
    ⟨_, _, .text "c", hhits, [("took", .number (.ofInt 1)), ("hits", _), ("_scroll_id", _)],
      [("took", _)], rfl, @List.perm_append_comm _ [_] _, by simp⟩
  have hlimits : c.IsWithinLimits := by
    constructor
    · simp [c, carried, Tree.depth, Tree.depthOfMembers]
    · simp [c, Tree.depth, Tree.depthOfMembers, Json.ofTree?, Json.deeper?, Json.ofMembers?,
        hnumber]
  obtain ⟨hiff, hall⟩ := read?_of_carries hbody hc
  obtain ⟨r, hr⟩ := hiff.2 hlimits
  obtain ⟨page, hpage, hcursor, hcount, hrecords⟩ := (hall r hr).2 "c" rfl
  obtain ⟨record, records, ⟨hid, hfields⟩, hnil, hpages⟩ := List.forall₂_cons_left_iff.1 hrecords
  obtain rfl := List.forall₂_nil_left_iff.1 hnil
  exact ⟨c, _, hbody, hc, r, page, record, hr, hpage, hcursor, hcount, hpages, hid, hfields⟩

/-! ### Nested sources -/

/-- Arrays inside each other. -/
def nestedArrays : Nat → Json
  | 0 => .null
  | n + 1 => .arr [nestedArrays n]

lemma depth_nestedArrays (n : Nat) : (Tree.ofJson (nestedArrays n)).depth = n := by
  induction n with
  | zero => simp [nestedArrays, Tree.ofJson, Tree.depth]
  | succ n ih => simp [nestedArrays, Tree.ofJson, Tree.depth, Tree.depthOfItems, ih]

lemma ofTree?_nestedArrays (n : Nat) :
    Json.ofTree? none (Tree.ofJson (nestedArrays n)) = some (nestedArrays n) := by
  induction n with
  | zero => simp [nestedArrays, Tree.ofJson, Json.ofTree?]
  | succ n ih => simp [nestedArrays, Tree.ofJson, Json.ofTree?, Json.deeper?, Json.ofItems?, ih]

/-- A body with the arrays as the source of its only hit. -/
def nestedBody (n : Nat) : String :=
  Json.compact (.obj [("_scroll_id", .str "c"), ("hits", .obj [("hits", .arr
    [.obj [("_id", .str "a"), ("_source", nestedArrays n)]])])])

/-- What the body carries. -/
def nestedContents (n : Nat) : Contents where
  cursor := some "c"
  total := ⟨none, none, .missing⟩
  hits := [⟨"a", some ⟨_, _, ofTree?_nestedArrays n⟩⟩]

lemma exists_nestedBody (n : Nat) :
    ∃ t, Tree.ofChars? (nestedBody n).toList = some t ∧ (nestedContents n).IsTree t := by
  refine ⟨_, Tree.ofChars?_compact _, ?_⟩
  simp only [Tree.ofJson, List.map_cons, List.map_nil]
  have hhit : CarriedHit.IsTree ⟨"a", some ⟨_, _, ofTree?_nestedArrays n⟩⟩
      (.obj [(some "_id", .text (some "a")), (some "_source", .ofJson (nestedArrays n))]) :=
    ⟨[("_id", _), ("_source", _)], [], rfl, .refl _, List.forall_mem_nil _⟩
  have hhits : (nestedContents n).AreHits (.obj [(some "hits", .arr [_])]) :=
    ⟨_, .cons hhit .nil, [("hits", _)], [], rfl, .refl _, List.forall_mem_nil _⟩
  exact ⟨_, _, .text "c", hhits, [("_scroll_id", _), ("hits", _)], [], rfl, .swap ..,
    List.forall_mem_nil _⟩

/-- A source that is nested deeper is not decoded, nor a total with a number out of range among the
members that are not known. -/
theorem Response.read?_eq_none_of_carried :
    (∃ t, Tree.ofChars? (nestedBody 124).toList = some t ∧ (nestedContents 124).IsTree t ∧
      read? (nestedBody 124) = none) ∧
    let body := "\x7b\"_scroll_id\":\"c\",\"hits\":\x7b\"total\":\x7b\"value\":1," ++
      "\"x\":1e400\x7d,\"hits\":[]\x7d\x7d"
    ∃ (c : Contents) (t : Tree), c.cursor = some "c" ∧ c.total.count = some 1 ∧ c.hits = [] ∧
      Tree.ofChars? body.toList = some t ∧ c.IsTree t ∧ read? body = none := by
  constructor
  · obtain ⟨t, hbody, hc⟩ := exists_nestedBody 124
    refine ⟨t, hbody, hc, Option.eq_none_iff_forall_not_mem.2 fun r hr => ?_⟩
    have hlimits := ((read?_eq_some_iff hbody hc).1 hr).2
    have hdepth := hlimits.source _ (List.mem_singleton_self _) _ rfl
    rw [depth_nestedArrays] at hdepth
    exact absurd hdepth (by decide)
  · intro body
    let huge : Json.Numeral := ⟨false, ['1'], none, some (false, ['4', '0', '0'])⟩
    let total : Tree := .obj [(some "value", .number (.ofInt 1)), (some "x", .number huge)]
    let hits : Tree := .obj [(some "total", total), (some "hits", .arr [])]
    let t : Tree := .obj [(some "_scroll_id", .text (some "c")), (some "hits", hits)]
    have htokens : Json.tokens? body.toList = some t.tokens := by
      simp only [t, hits, total, Tree.tokens, List.map_cons, List.map_nil]
      decide +kernel
    have hbody : Tree.ofChars? body.toList = some t := by
      rw [Tree.ofChars?, htokens, Option.bind_some, Tree.ofTokens?_tokens]
    have htotal : CarriesCount (some 1) (some total) :=
      @CarriesCount.object 1 none _ _ (by decide) .missing
        ⟨[("value", _), ("x", _)], [("x", _)], rfl, .refl _, by simp⟩
    let c : Contents := ⟨some "c", ⟨_, _, htotal⟩, []⟩
    have hhits : c.AreHits hits :=
      ⟨[], .nil, [("total", _), ("hits", _)], [], rfl, .swap .., List.forall_mem_nil _⟩
    have hc : c.IsTree t :=
      ⟨_, _, .text "c", hhits, [("_scroll_id", _), ("hits", _)], [], rfl, .swap ..,
        List.forall_mem_nil _⟩
    refine ⟨c, t, rfl, rfl, rfl, hbody, hc, Option.eq_none_iff_forall_not_mem.2 fun r hr => ?_⟩
    have hlimits := ((read?_eq_some_iff hbody hc).1 hr).2
    obtain ⟨-, v, hv⟩ := hlimits.total _ rfl
    have hhuge : huge.value? = none := by
      rw [← Option.isNone_iff_eq_none]
      decide +kernel
    simp [total, Json.ofTree?, Json.deeper?, Json.ofMembers?, hhuge] at hv

end ScrollExport.Search
