import ScrollExport.Proofs.Scroll.Calls

/-!
# Scripted drains

What a drain makes of a list of answers. The visits are read off the list (`visits`), so the whole
sequence of calls is known, and it keeps to the rules of the service (`Obeys`).
-/

namespace ScrollExport.Script

/-! ### Visits of a script -/

/-- What an index takes from a script, and what it leaves. -/
structure Share where
  pages : List Page
  failure : Option String
  left : List (Except String Page)

/-- Pages up to the first empty one, or up to the first failure. -/
def share : List (Except String Page) → Share
  | [] => ⟨[], some exhausted, []⟩
  | .error cause :: rest => ⟨[], some cause, rest⟩
  | .ok page :: rest =>
    if page.isEmpty then ⟨[page], none, rest⟩
    else
      let s := share rest
      { s with pages := page :: s.pages }

/-- A failure before the first page is one of the opening. -/
def Share.visit (index : String) (s : Share) : Visit String :=
  ⟨index, s.pages, s.failure.map (if s.pages.isEmpty then .opening index else .continuation)⟩

/-- The visits that a script gives: the indices share it in order, up to the first failure. -/
def visits : List String → List (Except String Page) → List (Visit String)
  | [], _ => []
  | index :: rest, answers =>
    let s := share answers
    s.visit index :: if s.failure.isNone then visits rest s.left else []

/-! ### Rules of the service -/

/-- Whether calls keep to the rules, if `answers` come back and `live` is the latest cursor of the
scroll that is open. A scroll is opened only while none is open. It is continued and released with
its latest cursor only, and in the end it is released. After a failure nothing more is asked. -/
def Obeys (live : Option Cursor) (answers : List (Except String Page)) :
    List Call → Prop
  | [] => live = none
  | .openScroll _ _ :: calls =>
    live = none ∧
      match answers with
      | .ok page :: rest => Obeys (some page.cursor) rest calls
      | _ => calls = []
  | .nextPage cursor _ :: calls =>
    live = some cursor ∧
      match answers with
      | .ok page :: rest => Obeys (some page.cursor) rest calls
      | _ => calls = [.release cursor]
  | .release cursor :: calls => live = some cursor ∧ Obeys none answers calls

/-! ### Answers that are taken -/

lemma answers_of_answer_ok {call : Call} {s s' : State} {page : Page}
    (h : answer call s = (.ok page, s')) : s.answers = .ok page :: s'.answers := by
  obtain ⟨answers, calls⟩ := s
  cases answers with
  | nil => simp [answer] at h
  | cons a rest =>
    obtain ⟨rfl, rfl⟩ : a = .ok page ∧ _ = s' := by simpa [answer] using h
    rfl

lemma answers_of_answer_error {call : Call} {s s' : State} {cause : String}
    (h : answer call s = (.error cause, s')) :
    s.answers = [] ∧ cause = exhausted ∧ s'.answers = [] ∨
      s.answers = .error cause :: s'.answers := by
  obtain ⟨answers, calls⟩ := s
  cases answers with
  | nil =>
    obtain ⟨rfl, rfl⟩ : exhausted = cause ∧ _ = s' := by simpa [answer] using h
    exact .inl ⟨rfl, rfl, rfl⟩
  | cons a rest =>
    obtain ⟨rfl, rfl⟩ : a = .error cause ∧ _ = s' := by simpa [answer] using h
    exact .inr rfl

/-! ### Derivations of a script -/

variable {fault : Option String} {q : Query}

/-- A release takes no answer. -/
lemma answers_of_release {cursor : Cursor} {s s' : State} {released : Except String Unit}
    (h : (service fault).release cursor s = (released, s')) : s'.answers = s.answers := by
  cases fault <;> exact congrArg (·.2.answers) h.symm

lemma share_of_follows {keepAlive : String} {page : Page} {s s' : State} {further : List Page}
    {failure : Option String}
    (h : (service fault).Follows keepAlive page s further failure s') :
    share (.ok page :: s.answers) = ⟨page :: further, failure, s'.answers⟩ := by
  induction h with
  | finished he => simp [share, he]
  | @failed page s s' cause he hn =>
    rcases answers_of_answer_error hn with ⟨ha, rfl, ha'⟩ | ha
    · simp [share, he, ha, ha']
    · simp [share, he, ha]
  | @next page page' s s' s'' further failure he hn hf ih =>
    rw [share, if_neg (by simp [he]), answers_of_answer_ok hn, ih]

lemma share_of_drains {index : String} {s s' : State} {v : Visit String}
    (h : (service fault).Drains q index s v s') :
    (share s.answers).visit index = v ∧
      (share s.answers).failure.isNone = v.failure.isNone ∧
      (share s.answers).left = s'.answers := by
  cases h with
  | refused ho =>
    rcases answers_of_answer_error ho with ⟨ha, rfl, ha'⟩ | ha
    · simp [share, Share.visit, ha, ha']
    · simp [share, Share.visit, ha]
  | @drained s₁ s₂ s₃ page further failure released ho hf hr =>
    rw [answers_of_answer_ok ho, share_of_follows hf]
    simp [Share.visit, answers_of_release hr]

theorem visits_of_gathers {indices : List String} {s s' : State} {vs : List (Visit String)}
    (h : (service fault).Gathers q indices s vs s') : visits indices s.answers = vs := by
  induction h with
  | nil => rfl
  | stop hd hv =>
    obtain ⟨rfl, hs, -⟩ := share_of_drains hd
    rw [visits]
    simp [hs, Option.isNone_eq_false_iff.2 hv]
  | cons hd hv hg ih =>
    obtain ⟨hw, hs, hl⟩ := share_of_drains hd
    rw [visits]
    simp [hs, hv, hw, hl, ih]

/-! ### Calls of a script -/

lemma logs (fault : Option String) (q : Query) :
    (service fault).Logs q State.calls fun call => [call] where
  openScroll index s := by
    obtain ⟨answers, calls⟩ := s
    cases answers <;> rfl
  nextPage cursor s := by
    obtain ⟨answers, calls⟩ := s
    cases answers <;> rfl
  release cursor s := by
    cases fault <;> rfl

lemma obeys_of_follows {page : Page} {s s' : State} {further : List Page}
    {failure : Option String} (h : (service fault).Follows q.keepAlive page s further failure s')
    {rest : List Call} (hok : failure = none → Obeys none s'.answers rest)
    (herr : failure.isSome = true → rest = []) :
    Obeys (some page.cursor) s.answers
      ((((page :: further).filter fun page => !page.isEmpty).map fun page =>
        .nextPage page.cursor q.keepAlive) ++
        .release (further.getLast?.getD page).cursor :: rest) := by
  induction h with
  | finished he => simpa [he, Obeys] using hok rfl
  | @failed page s s' cause he hn =>
    obtain rfl := herr rfl
    rcases answers_of_answer_error hn with ⟨ha, -⟩ | ha <;> simp [he, ha, Obeys]
  | @next page page' s s' s'' further failure he hn hf ih =>
    have hcalls := ih hok herr
    rw [answers_of_answer_ok hn]
    simpa [he, Obeys, List.getLast?_cons] using hcalls

lemma obeys_of_drains {index : String} {s s' : State} {v : Visit String}
    (h : (service fault).Drains q index s v s') {rest : List Call}
    (hok : v.failure = none → Obeys none s'.answers rest)
    (herr : v.failure.isSome = true → rest = []) :
    Obeys none s.answers (v.calls q ++ rest) := by
  cases h with
  | refused ho =>
    obtain rfl := herr rfl
    rcases answers_of_answer_error ho with ⟨ha, -⟩ | ha <;> simp [Visit.calls, ha, Obeys]
  | @drained s₁ s₂ s₃ page further failure released ho hf hr =>
    have hok' : failure = none → Obeys none s₂.answers rest := by
      rw [← answers_of_release hr]
      simpa using hok
    rw [answers_of_answer_ok ho]
    have hcalls := obeys_of_follows hf hok' (by simpa using herr)
    simpa [Visit.calls, Obeys, List.getLast?_cons] using hcalls

theorem obeys_of_gathers {indices : List String} {s s' : State} {vs : List (Visit String)}
    (h : (service fault).Gathers q indices s vs s') :
    Obeys none s.answers (vs.flatMap (Visit.calls q)) := by
  induction h with
  | nil => rfl
  | @stop index rest s s' v hd hv =>
    rw [List.flatMap_singleton, ← List.append_nil (v.calls q)]
    exact obeys_of_drains hd (fun hn => by simp [hn] at hv) fun _ => rfl
  | cons hd hv hg ih =>
    rw [List.flatMap_cons]
    exact obeys_of_drains hd (fun _ => ih) (by simp [hv])

/-! ### Exports of a script -/

/-- The calls of an export are those of the visits that its script gives: an index is opened, asked
once after each page that holds a record, and released if it was opened, and a failure ends it all.
The calls keep to the rules of the service. What the releases give changes nothing. -/
theorem export_calls (fault : Option String) (plan : ExportPlan) (elapsed : Duration)
    (answers : List (Except String Page)) (files : FileTree) :
    let run := (service fault).export plan elapsed ⟨answers, []⟩ files
    run.2.calls = (visits plan.query.indices answers).flatMap (Visit.calls plan.query) ∧
      Obeys none answers run.2.calls ∧
      ∀ (results : Cursor → State → Except String Unit) (elapsed' : Duration),
        let run' := ((service fault).releasing results).export plan elapsed' ⟨answers, []⟩ files
        run'.1.stamp elapsed = run.1 ∧ run'.2 = run.2 := by
  intro run
  obtain ⟨vs, s', h⟩ :=
    (service fault).exists_gathers plan.query plan.query.indices ⟨answers, []⟩
  have hrun : run.2 = s' := by
    simp only [run]
    rw [Service.export_eq h]
  have hcalls : run.2.calls =
      (visits plan.query.indices answers).flatMap (Visit.calls plan.query) := by
    rw [hrun, (logs fault plan.query).gathers h, visits_of_gathers h]
    simp
  refine ⟨hcalls, ?_, ?_⟩
  · rw [hcalls, visits_of_gathers h]
    exact obeys_of_gathers h
  · intro results elapsed'
    rw [Service.export_releasing]
    exact ⟨plan.conclude_stamp _ _ _ _, rfl⟩

end ScrollExport.Script
