import ScrollExport.Proofs.Scroll.Derivation

/-!
# Comparing outcomes

Two exports of the same rows differ in the time that they took and in the causes that their
services give. Both can be put aside: an outcome can be stamped with another time, and its causes
can be mapped.
-/

namespace ScrollExport

variable {σ σ' ε ε' : Type}

/-! ### Time -/

def Report.stamp (elapsed : Duration) (r : Report) : Report :=
  { r with elapsed }

/-- The error with another time in its report. -/
def ExportError.stamp (elapsed : Duration) : ExportError ε → ExportError ε
  | .interrupted report failure => .interrupted (report.stamp elapsed) failure
  | e => e

namespace Outcome

/-- The outcome with another time in its report. -/
def stamp (elapsed : Duration) (o : Outcome ε) : Outcome ε :=
  ⟨(o.result.map (Report.stamp elapsed)).mapError (ExportError.stamp elapsed), o.files⟩

/-! ### Causes -/

def map (f : ε → ε') (o : Outcome ε) : Outcome ε' :=
  ⟨o.result.mapError (ExportError.map f), o.files⟩

/-- The outcome without the causes that its service gave. -/
def causeless (o : Outcome ε) : Outcome Unit :=
  o.map fun _ => ()

/-! ### What an outcome tells -/

/-- The report of an export that ended, or of one that was interrupted. -/
def report? (o : Outcome ε) : Option Report :=
  match o.result with
  | .ok report | .error (.interrupted report _) => some report
  | _ => none

/-- The failure of a search, if the error of the outcome is about one. -/
def searchFailure? (o : Outcome ε) : Option (SearchFailure ε) :=
  match o.result with
  | .error (.search failure) | .error (.interrupted _ failure) => some failure
  | _ => none

end Outcome

/-! ### Conclusions -/

namespace ExportPlan

variable (plan : ExportPlan)

/-- The time that an export took appears in its report and nowhere else. -/
theorem conclude_stamp (g : Gathered σ ε) (elapsed elapsed' : Duration) (files : FileTree) :
    (plan.conclude g elapsed files).stamp elapsed' = plan.conclude g elapsed' files := by
  simp only [conclude, Outcome.stamp]
  split
  · split_ifs <;> rfl
  · rfl
  · split_ifs <;> rfl

/-- Causes are passed on as they are, and decide nothing. -/
lemma conclude_map (f : ε → ε') {g : Gathered σ ε} {g' : Gathered σ' ε'}
    (htable : g'.progress.table = g.progress.table) (hpages : g'.progress.pages = g.progress.pages)
    (hcounts : g'.counts = g.counts) (hfailure : g'.failure = g.failure.map (SearchFailure.map f))
    (elapsed : Duration) (files : FileTree) :
    (plan.conclude g elapsed files).map f = plan.conclude g' elapsed files := by
  have hreport : plan.report g' elapsed = plan.report g elapsed := by
    simp only [report, htable, hpages, hcounts]
  simp only [conclude, htable, hreport, hfailure, Outcome.map]
  cases g.failure with
  | none =>
    dsimp only [Option.map_none]
    split_ifs <;> rfl
  | some failure =>
    cases plan.policy with
    | discard => rfl
    | keep =>
      dsimp only [Option.map_some]
      split_ifs <;> rfl

/-- What visits make of an export depends neither on the causes nor on the state of the service. -/
theorem conclude_ofVisits_map (f : ε → ε') (vs : List (Visit ε)) (s s' : σ) (t t' : σ')
    (elapsed : Duration) (files : FileTree) :
    (plan.conclude (.ofVisits (.start s) vs s') elapsed files).map f =
      plan.conclude (.ofVisits (.start t) (vs.map (Visit.map f)) t') elapsed files := by
  have hrecords : (vs.map (Visit.map f)).flatMap Visit.records = vs.flatMap Visit.records :=
    List.flatMap_map ..
  have hpages : (vs.map (Visit.map f)).flatMap Visit.pages = vs.flatMap Visit.pages :=
    List.flatMap_map ..
  apply conclude_map
  · simp only [Gathered.ofVisits, hrecords]
    rfl
  · simp only [Gathered.ofVisits, hpages]
    rfl
  · simp [Gathered.ofVisits, Visit.map, Visit.count, Visit.records]
  · simp only [Gathered.ofVisits, hrecords, List.getLast?_map]
    cases vs.getLast? with
    | none => rfl
    | some v => cases hv : v.failure <;> simp [Visit.map, hv, SearchFailure.map, Progress.start]

theorem report_of_conclude {g : Gathered σ ε} {elapsed : Duration} {files : FileTree}
    {report : Report} (h : (plan.conclude g elapsed files).report? = some report) :
    report = plan.report g elapsed := by
  simp only [conclude] at h
  split at h
  · split_ifs at h <;> simp_all [Outcome.report?]
  · simp [Outcome.report?] at h
  · split_ifs at h <;> simp_all [Outcome.report?]

/-- Nothing can hide a failed search whose rows are dropped. -/
theorem searchFailure?_conclude_of_discard (hp : plan.policy = .discard) (g : Gathered σ ε)
    (elapsed : Duration) (files : FileTree) :
    (plan.conclude g elapsed files).searchFailure? = g.failure := by
  cases hf : g.failure with
  | none =>
    simp only [conclude, hf]
    split_ifs <;> rfl
  | some failure => simp [conclude, hf, hp, Outcome.searchFailure?]

end ExportPlan

end ScrollExport
