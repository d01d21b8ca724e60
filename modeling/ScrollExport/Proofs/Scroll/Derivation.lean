import Mathlib.Tactic.Common
import ScrollExport.Export

/-!
# Derivations of drains

What happens while indices are drained, request by request, as a relation. A derivation names the
pages that came for each index and the failure that ended them; what is gathered depends on nothing
else (`gather_eq`), and every service has a derivation for every query (`exists_gathers`).
-/

namespace ScrollExport

variable {σ ε : Type}

/-! ### Visits -/

/-- What one index gave: its pages in order, and the failure that ended them, if any. -/
structure Visit (ε : Type) where
  index : String
  pages : List Page
  failure : Option (ScrollError ε)

namespace Visit

def records (v : Visit ε) : List Record :=
  v.pages.flatMap Page.records

def count (v : Visit ε) : IndexCount :=
  ⟨v.index, v.records.length⟩

/-- The visit with other causes. -/
def map {ε' : Type} (f : ε → ε') (v : Visit ε) : Visit ε' :=
  ⟨v.index, v.pages, v.failure.map (ScrollError.map f)⟩

end Visit

/-- What visits make of the progress before them. Only the last visit can have failed. -/
def Gathered.ofVisits (p : Progress σ) (vs : List (Visit ε)) (s : σ) : Gathered σ ε :=
  let table := p.table.extend (vs.flatMap Visit.records)
  { progress := ⟨s, table, p.pages + (vs.flatMap Visit.pages).length⟩
    counts := vs.map Visit.count
    failure := vs.getLast?.bind fun v =>
      v.failure.map fun cause => ⟨v.index, table.size, cause⟩ }

namespace Service

/-! ### Rules -/

/-- After a page the pages `further` come, up to an empty one or a failed request. -/
inductive Follows (svc : Service σ ε) (keepAlive : String) :
    Page → σ → List Page → Option ε → σ → Prop where
  | finished {page : Page} {s : σ} (he : page.isEmpty = true) :
      Follows svc keepAlive page s [] none s
  | failed {page : Page} {s s' : σ} {cause : ε} (he : page.isEmpty = false)
      (hn : svc.nextPage page.cursor keepAlive s = (.error cause, s')) :
      Follows svc keepAlive page s [] (some cause) s'
  | next {page page' : Page} {s s' s'' : σ} {further : List Page} {failure : Option ε}
      (he : page.isEmpty = false)
      (hn : svc.nextPage page.cursor keepAlive s = (.ok page', s'))
      (hf : Follows svc keepAlive page' s' further failure s'') :
      Follows svc keepAlive page s (page' :: further) failure s''

/-- A scroll that was opened is followed and then released, whatever the release gives. -/
inductive Drains (svc : Service σ ε) (q : Query) (index : String) :
    σ → Visit ε → σ → Prop where
  | refused {s s' : σ} {cause : ε} (ho : svc.openScroll q index s = (.error cause, s')) :
      Drains svc q index s ⟨index, [], some (.opening index cause)⟩ s'
  | drained {s s₁ s₂ s₃ : σ} {page : Page} {further : List Page} {failure : Option ε}
      {released : Except ε Unit} (ho : svc.openScroll q index s = (.ok page, s₁))
      (hf : svc.Follows q.keepAlive page s₁ further failure s₂)
      (hr : svc.release (further.getLast?.getD page).cursor s₂ = (released, s₃)) :
      Drains svc q index s ⟨index, page :: further, failure.map .continuation⟩ s₃

/-- Indices are drained in order, up to the first failure. -/
inductive Gathers (svc : Service σ ε) (q : Query) :
    List String → σ → List (Visit ε) → σ → Prop where
  | nil {s : σ} : Gathers svc q [] s [] s
  | stop {index : String} {rest : List String} {s s' : σ} {v : Visit ε}
      (hd : svc.Drains q index s v s') (hv : v.failure.isSome = true) :
      Gathers svc q (index :: rest) s [v] s'
  | cons {index : String} {rest : List String} {s s' s'' : σ} {v : Visit ε} {vs : List (Visit ε)}
      (hd : svc.Drains q index s v s') (hv : v.failure = none)
      (hg : svc.Gathers q rest s' vs s'') :
      Gathers svc q (index :: rest) s (v :: vs) s''

/-! ### Following page by page -/

variable {svc : Service σ ε} {q : Query} {keepAlive : String}

lemma follow_of_isEmpty {page : Page} (he : page.isEmpty = true) (p : Progress σ) :
    svc.follow keepAlive page p = ⟨none, page.cursor, p⟩ := by
  rw [follow, if_pos he]

lemma follow_of_error {page : Page} {s s' : σ} {cause : ε} (he : page.isEmpty = false)
    (hn : svc.nextPage page.cursor keepAlive s = (.error cause, s')) (table : Table)
    (pages : Nat) :
    svc.follow keepAlive page ⟨s, table, pages⟩ =
      ⟨some (.continuation cause), page.cursor, ⟨s', table.extend page.records, pages⟩⟩ := by
  rw [follow, if_neg (by simp [he])]
  split
  · rename_i h
    obtain ⟨rfl, rfl⟩ : cause = _ ∧ s' = _ := by simpa [hn] using h
    rfl
  · rename_i h
    simp [hn] at h

/-- The test for an empty page is made twice, so a further page is always followed. -/
lemma follow_of_ok {page page' : Page} {s s' : σ} (he : page.isEmpty = false)
    (hn : svc.nextPage page.cursor keepAlive s = (.ok page', s')) (table : Table)
    (pages : Nat) :
    svc.follow keepAlive page ⟨s, table, pages⟩ =
      svc.follow keepAlive page' ⟨s', table.extend page.records, pages + 1⟩ := by
  rw [follow, if_neg (by simp [he])]
  split
  · rename_i h
    simp [hn] at h
  · rename_i h
    obtain ⟨rfl, rfl⟩ : page' = _ ∧ s' = _ := by simpa [hn] using h
    split
    · rename_i he'
      rw [follow_of_isEmpty he']
    · rfl

/-! ### Derivations determine what is gathered -/

lemma follow_eq {page : Page} {s s' : σ} {further : List Page} {failure : Option ε}
    (h : svc.Follows keepAlive page s further failure s') (table : Table) (pages : Nat) :
    svc.follow keepAlive page ⟨s, table, pages⟩ =
      ⟨failure.map .continuation, (further.getLast?.getD page).cursor,
        ⟨s', table.extend ((page :: further).flatMap Page.records), pages + further.length⟩⟩ := by
  induction h generalizing table pages with
  | @finished page s he =>
    have hr : page.records = [] := by simpa [Page.isEmpty] using he
    rw [follow_of_isEmpty he]
    simp [hr]
  | failed he hn =>
    rw [follow_of_error he hn]
    simp
  | @next page page' s s' s'' further failure he hn hf ih =>
    rw [follow_of_ok he hn, ih]
    simp only [List.flatMap_cons, Table.extend_append, List.getLast?_cons, Option.getD_some,
      List.length_cons]
    congr 2
    omega

lemma Drains.index_eq {index : String} {s s' : σ} {v : Visit ε}
    (h : svc.Drains q index s v s') : v.index = index := by
  cases h <;> rfl

/-- Only the last visit can have failed. -/
lemma Gathers.failure_eq_none_iff {indices : List String} {s s' : σ} {vs : List (Visit ε)}
    (h : svc.Gathers q indices s vs s') :
    vs.getLast?.bind Visit.failure = none ↔ ∀ v ∈ vs, v.failure = none := by
  induction h with
  | nil => simp
  | stop hd hv => simp
  | @cons index rest s s' s'' v vs hd hv hg ih =>
    rw [List.forall_mem_cons, ← ih]
    cases vs with
    | nil => simp [hv]
    | cons v' vs => simp [hv, List.getLast?_cons_cons]

/-- After indices of which none failed the drain goes on. -/
lemma Gathers.append {earlier rest : List String} {s s' s'' : σ} {vs vs' : List (Visit ε)}
    (h : svc.Gathers q earlier s vs s') (hv : ∀ v ∈ vs, v.failure = none)
    (h' : svc.Gathers q rest s' vs' s'') : svc.Gathers q (earlier ++ rest) s (vs ++ vs') s'' := by
  induction h with
  | nil => exact h'
  | @stop index rest s s' v hd hf =>
    rw [hv v (List.mem_singleton_self v)] at hf
    cases hf
  | cons hd hf hg ih =>
    exact .cons hd hf (ih (List.forall_mem_cons.1 hv).2 h')

lemma drain_eq {index : String} {v : Visit ε} {p : Progress σ} {s' : σ}
    (h : svc.Drains q index p.state v s') :
    svc.drain q index p =
      (v.failure, ⟨s', p.table.extend v.records, p.pages + v.pages.length⟩) := by
  obtain ⟨s, table, pages⟩ := p
  cases h with
  | refused ho => simp [drain, ho, Visit.records]
  | drained ho hf hr =>
    simp only [drain, ho, follow_eq hf, hr, Visit.records, List.length_cons]
    congr 2
    omega

theorem gather_eq {indices : List String} {p : Progress σ} {vs : List (Visit ε)} {s' : σ}
    (h : svc.Gathers q indices p.state vs s') :
    svc.gather q indices p = .ofVisits p vs s' := by
  generalize hs : p.state = s at h
  induction h generalizing p with
  | nil =>
    subst hs
    simp [gather, Gathered.ofVisits]
  | stop hd hv =>
    subst hs
    obtain ⟨cause, hv⟩ := Option.isSome_iff_exists.1 hv
    have hi := hd.index_eq
    simp [gather, drain_eq hd, hv, hi, Gathered.ofVisits, Visit.count]
  | @cons index rest s s₁ s₂ v vs hd hv hg ih =>
    subst hs
    have hi := hd.index_eq
    simp only [gather, drain_eq hd, hv]
    rw [ih rfl]
    simp only [Gathered.ofVisits, List.flatMap_cons, List.map_cons, Table.extend_append,
      List.length_append, Nat.add_assoc, Visit.count, hi, Table.size_extend,
      Nat.add_sub_cancel_left]
    congr 1
    cases vs with
    | nil => simp [hv]
    | cons v' vs => simp [List.getLast?_cons_cons]

/-- An export ends as its visits say. -/
theorem export_eq {plan : ExportPlan} {s s' : σ} {vs : List (Visit ε)}
    (h : svc.Gathers plan.query plan.query.indices s vs s') (elapsed : Duration)
    (files : FileTree) :
    svc.export plan elapsed s files =
      (plan.conclude (.ofVisits (.start s) vs s') elapsed files, s') := by
  rw [Service.export, gather_eq (p := .start s) h]
  rfl

/-! ### Every service has derivations -/

theorem exists_follows (svc : Service σ ε) (keepAlive : String) (page : Page) (s : σ) :
    ∃ further failure s', svc.Follows keepAlive page s further failure s' := by
  induction hb : svc.budget s using Nat.strongRecOn generalizing page s with
  | ind n ih =>
    cases he : page.isEmpty with
    | true => exact ⟨_, _, _, .finished he⟩
    | false =>
      rcases hn : svc.nextPage page.cursor keepAlive s with ⟨cause | page', s'⟩
      · exact ⟨_, _, _, .failed he hn⟩
      · cases he' : page'.isEmpty with
        | true => exact ⟨_, _, _, .next he hn (.finished he')⟩
        | false =>
          obtain ⟨further, failure, s'', hf⟩ := ih _ (hb ▸ svc.budget_lt hn he') page' s' rfl
          exact ⟨_, _, _, .next he hn hf⟩

theorem exists_drains (svc : Service σ ε) (q : Query) (index : String) (s : σ) :
    ∃ v s', svc.Drains q index s v s' := by
  rcases ho : svc.openScroll q index s with ⟨cause | page, s₁⟩
  · exact ⟨_, _, .refused ho⟩
  · obtain ⟨further, failure, s₂, hf⟩ := svc.exists_follows q.keepAlive page s₁
    exact ⟨_, _, .drained ho hf rfl⟩

theorem exists_gathers (svc : Service σ ε) (q : Query) (indices : List String) (s : σ) :
    ∃ vs s', svc.Gathers q indices s vs s' := by
  induction indices generalizing s with
  | nil => exact ⟨_, _, .nil⟩
  | cons index rest ih =>
    obtain ⟨v, s₁, hd⟩ := svc.exists_drains q index s
    cases hv : v.failure with
    | none =>
      obtain ⟨vs, s₂, hg⟩ := ih s₁
      exact ⟨_, _, .cons hd hv hg⟩
    | some cause => exact ⟨_, _, .stop hd (by simp [hv])⟩

end Service

end ScrollExport
