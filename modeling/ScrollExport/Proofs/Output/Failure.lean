import ScrollExport.Proofs.Output.Effects
import ScrollExport.Scroll.Script

/-!
# Failed searches in errors

A search can fail, and afterwards some of the files that should get what it gathered. Then only one
of the two failures is told: that of the files.
-/

namespace ScrollExport

variable {σ ε : Type}

/-- No index is visited after one that failed. -/
lemma Service.Gathers.getLast?_of_failure {svc : Service σ ε} {q : Query} {indices : List String}
    {s s' : σ} {vs : List (Visit ε)} (h : svc.Gathers q indices s vs s') {v : Visit ε}
    (hv : v ∈ vs) (hf : v.failure ≠ none) : vs.getLast? = some v := by
  induction h with
  | nil => cases hv
  | stop hd hs =>
    obtain rfl := List.mem_singleton.1 hv
    rfl
  | @cons index rest s s' s'' v' vs hd hn hg ih =>
    rcases List.mem_cons.1 hv with rfl | hv
    · exact absurd hn hf
    · obtain ⟨v'', vs, rfl⟩ := List.exists_cons_of_ne_nil (List.ne_nil_of_mem hv)
      rw [List.getLast?_cons_cons]
      exact ih hv

/-- A search failed exactly if one of the visits did. -/
lemma Service.Gathers.failure_ofVisits_eq_none_iff {svc : Service σ ε} {q : Query}
    {indices : List String} {s s' : σ} {vs : List (Visit ε)} (h : svc.Gathers q indices s vs s') :
    (Gathered.ofVisits (.start s) vs s').failure = none ↔ ∀ v ∈ vs, v.failure = none := by
  rw [← h.failure_eq_none_iff]
  cases hl : vs.getLast? with
  | none => simp [Gathered.ofVisits, hl]
  | some v => simp [Gathered.ofVisits, hl]

/-- What the report on these visits says, if a plan is carried out in this time. -/
def ExportPlan.reportOn (plan : ExportPlan) (visited : List (Visit ε)) (elapsed : Duration) :
    Report where
  count := (visited.flatMap Visit.records).length
  pages := (visited.flatMap Visit.pages).length
  indices := visited.map Visit.count
  outputs := plan.targets.map Target.output
  elapsed := elapsed

lemma ExportPlan.report_ofVisits (plan : ExportPlan) (visited : List (Visit ε)) (s s' : σ)
    (elapsed : Duration) :
    plan.report (.ofVisits (.start s) visited s') elapsed = plan.reportOn visited elapsed := by
  simp [report, reportOn, Gathered.ofVisits, Progress.start]

lemma Gathered.failure_ofVisits {visited : List (Visit ε)} {v : Visit ε} {cause : ScrollError ε}
    (hl : visited.getLast? = some v) (hc : v.failure = some cause) (s s' : σ) :
    (Gathered.ofVisits (.start s) visited s').failure =
      some ⟨v.index, (visited.flatMap Visit.records).length, cause⟩ := by
  simp [Gathered.ofVisits, Progress.start, hl, hc]

/-- A failed search that is written ends with the files that cannot be created, if there are any. -/
lemma ExportPlan.result_conclude_of_not_isWritable (plan : ExportPlan) {g : Gathered σ ε}
    {failure : SearchFailure ε} (hf : g.failure = some failure) (hp : plan.policy = .keep)
    (elapsed : Duration) {files : FileTree}
    (hw : ¬ ∀ t ∈ plan.targets, files.IsWritable t.path) :
    (plan.conclude g elapsed files).result =
      .error (.files (writeTargets g.progress.table plan.targets files).1) := by
  rw [← writeTargets_eq_nil_iff g.progress.table] at hw
  simp only [conclude, hf, hp, hw, if_false]

/-- If a request fails, the error of the export is about it exactly if what was gathered is dropped,
or every target can be created: then it is that of the search alone, or it comes with the report on
what was written. Otherwise the targets that cannot be created are all that it tells. -/
theorem Service.searchFailure?_export (svc : Service σ ε) (plan : ExportPlan) (elapsed : Duration)
    (s : σ) (files : FileTree) :
    let run := (svc.export plan elapsed s files).1
    ∃ visited s', svc.Gathers plan.query plan.query.indices s visited s' ∧
      ((∀ v ∈ visited, v.failure = none) → run.searchFailure? = none) ∧
      ∀ v ∈ visited, ∀ cause, v.failure = some cause →
        let failure : SearchFailure ε :=
          ⟨v.index, (visited.flatMap Visit.records).length, cause⟩
        (run.searchFailure? = some failure ↔
          plan.policy = .discard ∨ ∀ t ∈ plan.targets, files.IsWritable t.path) ∧
        (plan.policy = .discard → run.result = .error (.search failure)) ∧
        (plan.policy = .keep →
          ((∀ t ∈ plan.targets, files.IsWritable t.path) →
            run.result = .error (.interrupted (plan.reportOn visited elapsed) failure)) ∧
          ((¬ ∀ t ∈ plan.targets, files.IsWritable t.path) → ∃ failures,
            run.result = .error (.files failures) ∧
            failures.map (fun f => OutputFile.mk f.format f.path) =
              (plan.targets.filter fun t => ¬ files.IsWritable t.path).map Target.output)) := by
  intro run
  obtain ⟨visited, s', hg⟩ := svc.exists_gathers plan.query plan.query.indices s
  let g : Gathered σ ε := .ofVisits (.start s) visited s'
  have hrun : run = plan.conclude g elapsed files := congrArg Prod.fst (export_eq hg elapsed files)
  refine ⟨visited, s', hg, fun hn => ?_, fun v hv cause hc => ?_⟩
  · have hf : g.failure = none := hg.failure_ofVisits_eq_none_iff.2 hn
    rw [hrun, plan.conclude_of_failure_eq_none hf]
    simp only [Outcome.searchFailure?]
    split_ifs <;> rfl
  · intro failure
    have hl := hg.getLast?_of_failure hv (by simp [hc])
    have hf : g.failure = some failure := Gathered.failure_ofVisits hl hc s s'
    refine ⟨⟨fun ht => ?_, fun h => ?_⟩, fun hp => ?_, fun hp => ⟨fun hw => ?_, fun hw => ?_⟩⟩
    · by_contra hn
      obtain ⟨hp, hw⟩ := not_or.1 hn
      have hp : plan.policy = .keep := by cases h : plan.policy <;> simp_all
      have hr := plan.result_conclude_of_not_isWritable hf hp elapsed hw
      rw [hrun, Outcome.searchFailure?, hr] at ht
      cases ht
    · rw [hrun, plan.searchFailure?_conclude g elapsed h, hf]
    · rw [hrun, ExportPlan.conclude, hf, hp]
    · rw [hrun, plan.result_conclude_of_keep hf hp elapsed hw, plan.report_ofVisits]
    · rw [hrun, plan.result_conclude_of_not_isWritable hf hp elapsed hw]
      exact ⟨_, rfl, failures_writeTargets ..⟩

/-- The only request fails, and there is no folder for the file. -/
example :
    let range : TimeRange := ⟨"t", "date", none, none⟩
    let query : Query := ⟨["logs"], 1, "60s", range, by decide, by decide, by decide⟩
    let plan : ExportPlan := ⟨query, [⟨"missing/o.json", .json true⟩], .keep⟩
    let run := (Script.service none).export plan ⟨1, 0⟩ ⟨[.error "no answer"], []⟩
      (FileTree.empty ["home"])
    run.1.result = .error (.files [⟨"json", "missing/o.json",
      "Output Creation Error for missing/o.json: No such file or directory (os error 2)"⟩]) := by
  decide

end ScrollExport
