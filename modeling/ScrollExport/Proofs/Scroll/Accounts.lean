import Mathlib.Algebra.Ring.Nat
import ScrollExport.Proofs.Scroll.Scripted

/-!
# Accounts of a drain

The rows of the gathered table, the counts of the report and the failure of the search all tell of
the same pages: those that were received, each once and in order.
-/

namespace ScrollExport

variable {σ ε : Type}

namespace Service

variable {svc : Service σ ε} {q : Query}

/-- Indices are visited in order. -/
lemma Gathers.index_prefix {indices : List String} {s s' : σ} {vs : List (Visit ε)}
    (h : svc.Gathers q indices s vs s') : vs.map Visit.index <+: indices := by
  induction h with
  | nil => exact List.prefix_rfl
  | stop hd hv => simp [hd.index_eq]
  | cons hd hv hg ih => simpa [hd.index_eq] using ih

/-- No index is left out unless a visit failed. -/
lemma Gathers.index_eq {indices : List String} {s s' : σ} {vs : List (Visit ε)}
    (h : svc.Gathers q indices s vs s') (hf : vs.getLast?.bind Visit.failure = none) :
    vs.map Visit.index = indices := by
  induction h with
  | nil => rfl
  | stop hd hv => simp [Option.isSome_iff_ne_none.1 hv] at hf
  | @cons index rest s s' s'' v vs hd hv hg ih =>
    rw [List.map_cons, hd.index_eq, ih]
    cases vs with
    | nil => rfl
    | cons v' vs => simpa [List.getLast?_cons_cons] using hf

end Service

namespace Script

variable {fault : Option String} {q : Query}

/-! ### Answers that were taken -/

lemma opened?_calls (q : Query) (v : Visit ε) :
    (v.calls q).filterMap Call.opened? = [v.index] := by
  simp [Visit.calls, Call.opened?, List.filterMap_append, List.filterMap_map, Function.comp_def]

lemma opened?_flatMap_calls (q : Query) (vs : List (Visit ε)) :
    (vs.flatMap (Visit.calls q)).filterMap Call.opened? = vs.map Visit.index := by
  induction vs with
  | nil => rfl
  | cons v vs ih => simp [opened?_calls, ih]

/-- No index is opened that the query does not name. -/
lemma mem_indices_of_opened {plan : ExportPlan} {elapsed : Duration}
    {answers : List (Except String Page)} {files : FileTree} {call : Call} {index : String}
    (hc : call ∈ ((service fault).export plan elapsed ⟨answers, []⟩ files).2.calls)
    (hi : call.opened? = some index) : index ∈ plan.query.indices := by
  obtain ⟨vs, s', hg⟩ :=
    (service fault).exists_gathers plan.query plan.query.indices ⟨answers, []⟩
  rw [Service.export_eq hg, (logs fault plan.query).gathers hg] at hc
  simp only [List.flatMap_singleton', List.nil_append] at hc
  have hm := List.mem_filterMap.2 ⟨call, hc, hi⟩
  rw [opened?_flatMap_calls] at hm
  exact hg.index_prefix.subset hm

/-! ### Exports of a script -/

end Script

end ScrollExport
