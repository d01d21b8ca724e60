import ScrollExport.Proofs.Scroll.Derivation
import ScrollExport.Proofs.Scroll.Outcome
import ScrollExport.Scroll.Script

/-!
# Calls of a drain

Which requests are made for the pages that come. The calls of a visit are written down from its
pages alone, and every service that records its requests records them (`Logs.gathers`). What a
release gives changes neither the requests nor the outcome (`export_releasing`).
-/

namespace ScrollExport

open Script (Call)

variable {σ ε β : Type}

/-- The index that a call opens. -/
def Script.Call.opened? : Call → Option String
  | .openScroll index _ => some index
  | _ => none

/-- Open the index, ask once after each page that holds a record with the cursor of that page, and
release the last cursor that came. -/
def Visit.calls (q : Query) (v : Visit ε) : List Call :=
  .openScroll v.index q.pageSize ::
    ((v.pages.filter fun page => !page.isEmpty).map fun page =>
      .nextPage page.cursor q.keepAlive) ++
    v.pages.getLast?.toList.map fun page => .release page.cursor

lemma Visit.calls_map {ε' : Type} (f : ε → ε') (q : Query) (v : Visit ε) :
    (v.map f).calls q = v.calls q := rfl

namespace Service

/-! ### Recorded requests -/

/-- The state holds a log to which every request adds its entries, whatever the answer is. -/
structure Logs (svc : Service σ ε) (q : Query) (log : σ → List β) (entries : Call → List β) :
    Prop where
  openScroll : ∀ index s,
    log (svc.openScroll q index s).2 = log s ++ entries (.openScroll index q.pageSize)
  nextPage : ∀ cursor s,
    log (svc.nextPage cursor q.keepAlive s).2 = log s ++ entries (.nextPage cursor q.keepAlive)
  release : ∀ cursor s,
    log (svc.release cursor s).2 = log s ++ entries (.release cursor)

namespace Logs

variable {svc : Service σ ε} {q : Query} {log : σ → List β} {entries : Call → List β}

lemma follows (hl : svc.Logs q log entries) {page : Page} {s s' : σ} {further : List Page}
    {failure : Option ε} (h : svc.Follows q.keepAlive page s further failure s') :
    log s' = log s ++
      (((page :: further).filter fun page => !page.isEmpty).map fun page =>
        Call.nextPage page.cursor q.keepAlive).flatMap entries := by
  induction h with
  | finished he => simp [he]
  | @failed page s s' cause he hn =>
    have hs := hl.nextPage page.cursor s
    rw [hn] at hs
    simp [hs, he]
  | @next page page' s s' s'' further failure he hn hf ih =>
    have hs := hl.nextPage page.cursor s
    rw [hn] at hs
    rw [ih, hs]
    simp [he]

lemma drains (hl : svc.Logs q log entries) {index : String} {s s' : σ} {v : Visit ε}
    (h : svc.Drains q index s v s') : log s' = log s ++ (v.calls q).flatMap entries := by
  cases h with
  | refused ho =>
    have hs := hl.openScroll index s
    rw [ho] at hs
    simp [hs, Visit.calls]
  | @drained s₁ s₂ s₃ page further failure released ho hf hr =>
    have hs := hl.openScroll index s
    have hs' := hl.release (further.getLast?.getD page).cursor s₂
    rw [ho] at hs
    rw [hr] at hs'
    rw [hs', hl.follows hf, hs]
    simp [Visit.calls, List.getLast?_cons]

theorem gathers (hl : svc.Logs q log entries) {indices : List String} {s s' : σ}
    {vs : List (Visit ε)} (h : svc.Gathers q indices s vs s') :
    log s' = log s ++ (vs.flatMap (Visit.calls q)).flatMap entries := by
  induction h with
  | nil => simp
  | stop hd hv =>
    rw [hl.drains hd]
    simp
  | cons hd hv hg ih =>
    rw [ih, hl.drains hd]
    simp

end Logs

/-! ### Releases -/

/-- The service with other results for its releases. They may depend on all that the state holds,
and so on all requests that were made before. -/
def releasing (svc : Service σ ε) (results : Cursor → σ → Except ε Unit) : Service σ ε :=
  { svc with release := fun cursor s => (results cursor s, (svc.release cursor s).2) }

@[simp] lemma release_releasing (svc : Service σ ε) (results : Cursor → σ → Except ε Unit)
    (cursor : Cursor) (s : σ) :
    (svc.releasing results).release cursor s = (results cursor s, (svc.release cursor s).2) := rfl

variable {svc : Service σ ε} {q : Query}

lemma Follows.releasing {keepAlive : String} {page : Page} {s s' : σ} {further : List Page}
    {failure : Option ε} (h : svc.Follows keepAlive page s further failure s')
    (results : Cursor → σ → Except ε Unit) :
    (svc.releasing results).Follows keepAlive page s further failure s' := by
  induction h with
  | finished he => exact .finished he
  | failed he hn => exact .failed he hn
  | next he hn hf ih => exact .next he hn ih

lemma Drains.releasing {index : String} {s s' : σ} {v : Visit ε} (h : svc.Drains q index s v s')
    (results : Cursor → σ → Except ε Unit) : (svc.releasing results).Drains q index s v s' := by
  cases h with
  | refused ho => exact .refused ho
  | @drained s₁ s₂ s₃ page further failure released ho hf hr =>
    have hr' := svc.release_releasing results (further.getLast?.getD page).cursor s₂
    rw [hr] at hr'
    exact .drained ho (hf.releasing results) hr'

lemma Gathers.releasing {indices : List String} {s s' : σ} {vs : List (Visit ε)}
    (h : svc.Gathers q indices s vs s') (results : Cursor → σ → Except ε Unit) :
    (svc.releasing results).Gathers q indices s vs s' := by
  induction h with
  | nil => exact .nil
  | stop hd hv => exact .stop (hd.releasing results) hv
  | cons hd hv hg ih => exact .cons (hd.releasing results) hv ih

/-- Nothing depends on what a release gives. -/
theorem export_releasing (svc : Service σ ε) (results : Cursor → σ → Except ε Unit)
    (plan : ExportPlan) (elapsed : Duration) (s : σ) (files : FileTree) :
    (svc.releasing results).export plan elapsed s files = svc.export plan elapsed s files := by
  obtain ⟨vs, s', h⟩ := svc.exists_gathers plan.query plan.query.indices s
  rw [export_eq h, export_eq (h.releasing results)]

end Service

end ScrollExport
