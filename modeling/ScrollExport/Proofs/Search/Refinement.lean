import ScrollExport.Proofs.Scroll.Accounts
import ScrollExport.Proofs.Search.Requests
import ScrollExport.Proofs.Url.Credentials
import ScrollExport.Run

/-!
# Refinement

A session is a script: its answers can be read beforehand, each as a page or as a failure, and an
export of the session is the export of that script, request by request. Only the causes of failures
differ. An answer to a release is no page, so the script leaves it out.
-/

namespace ScrollExport

open Search
open Script (Call share visits)

namespace Search

/-! ### Reading answers -/

namespace Answer

/-- The page that an answer carries: it tells of success, and its body arrives and is a search
response with a scroll id. -/
def page? : Answer → Option Page
  | .silence => none
  | .reply status body complete =>
    if isSuccess status then
      ((visibleBody? status body complete).bind Response.read?).bind Response.page?
    else none

/-- Whether an answer tells that a scroll is released, or that it is gone. -/
def releases : Answer → Bool
  | .silence => false
  | .reply status _ _ => isSuccess status || status = 404

lemma isFinal_of_isSuccess {status : Nat} (h : isSuccess status = true) :
    isFinal status = true := by
  simp only [isSuccess, isFinal, Bool.and_eq_true, Bool.or_eq_true, decide_eq_true_eq] at h ⊢
  omega

lemma toOption_readPage (asked details : String) (answer : Answer) :
    (readPage asked details answer.seen).toOption = answer.page? := by
  cases answer with
  | silence => rfl
  | reply status body complete =>
    by_cases hs : isSuccess status = true
    · simp only [seen, isFinal_of_isSuccess hs, if_true, readPage, pageOf, hs, Bool.not_true,
        Bool.false_eq_true, if_false, page?]
      cases (visibleBody? status body complete).bind Response.read? with
      | none => rfl
      | some response => cases h : response.page? <;> simp [h, Except.toOption]
    · simp only [seen, page?, if_neg hs]
      split_ifs
      · simp [readPage, pageOf, hs, Except.toOption]
      · rfl

lemma isOk_readRelease (answer : Answer) : (readRelease answer.seen).isOk = answer.releases := by
  cases answer with
  | silence => rfl
  | reply status body complete =>
    by_cases hr : (isSuccess status || status = 404) = true
    · have hf : isFinal status = true := by
        rcases Bool.or_eq_true_iff.1 hr with hs | hn
        · exact isFinal_of_isSuccess hs
        · obtain rfl := of_decide_eq_true hn
          rfl
      simp only [seen, hf, if_true, readRelease, releases, hr]
      rfl
    · rw [Bool.not_eq_true] at hr
      simp only [seen, releases, hr]
      split_ifs
      · simp only [readRelease, hr]
        rfl
      · rfl

end Answer

/-- The page that the next answer of a server carries. -/
def Server.page? (s : Server) : Option Page :=
  s.answers.head?.bind Answer.page?

/-! ### Answers as a script -/

/-- What a failed request gives in a script; the cause is of no account. -/
def unread : String := "no page"

/-- A queue of answers as a script, up to the first failure. If a release is due, the next answer is
left out. -/
def pageAnswers (due : Bool) : List Answer → List (Except String Page)
  | [] => []
  | answer :: rest =>
    if due then pageAnswers false rest
    else
      match answer.page? with
      | none => [.error unread]
      | some page => .ok page :: pageAnswers page.isEmpty rest

lemma pageAnswers_true (answers : List Answer) :
    pageAnswers true answers = pageAnswers false answers.tail := by
  cases answers <;> rfl

lemma pageAnswers_of_some {s : Server} {page : Page} (h : s.page? = some page) :
    pageAnswers false s.answers = .ok page :: pageAnswers page.isEmpty s.answers.tail := by
  obtain ⟨answers, requests⟩ := s
  cases answers with
  | nil => simp [Server.page?] at h
  | cons answer rest =>
    have ha : answer.page? = some page := h
    simp [pageAnswers, ha]

lemma share_of_page?_eq_none {s : Server} (h : s.page? = none) :
    ∃ cause, share (pageAnswers false s.answers) = ⟨[], some cause, []⟩ := by
  obtain ⟨answers, requests⟩ := s
  cases answers with
  | nil => exact ⟨_, rfl⟩
  | cons answer rest =>
    have ha : answer.page? = none := h
    exact ⟨unread, by simp [pageAnswers, ha, share]⟩

namespace Access

variable {a : Access} {q : Query}

/-! ### Requests take answers -/

lemma answers_exchange (r : Request) (s : Server) :
    (s.exchange r).2.answers = s.answers.tail := by
  obtain ⟨answers, requests⟩ := s
  cases answers <;> rfl

lemma requests_exchange (r : Request) (s : Server) :
    (s.exchange r).2.requests = s.requests ++ [r] := by
  obtain ⟨answers, requests⟩ := s
  cases answers <;> rfl

lemma toOption_readPage_exchange (r : Request) (s : Server) (asked details : String) :
    (readPage asked details (s.exchange r).1).toOption = s.page? := by
  obtain ⟨answers, requests⟩ := s
  cases answers with
  | nil => rfl
  | cons answer rest => exact Answer.toOption_readPage asked details answer

lemma reads_openScroll {index : String} {s s' : Server} {result : Except Fault Page}
    (h : a.openScroll q index s = (result, s')) :
    s.page? = result.toOption ∧ s'.answers = s.answers.tail := by
  obtain ⟨rfl, rfl⟩ := Prod.mk.inj h
  exact ⟨(toOption_readPage_exchange ..).symm, answers_exchange ..⟩

lemma reads_nextPage {cursor : Cursor} {keepAlive : String} {s s' : Server}
    {result : Except Fault Page} (h : a.nextPage cursor keepAlive s = (result, s')) :
    s.page? = result.toOption ∧ s'.answers = s.answers.tail := by
  obtain ⟨rfl, rfl⟩ := Prod.mk.inj h
  exact ⟨(toOption_readPage_exchange ..).symm, answers_exchange ..⟩

lemma reads_release {cursor : Cursor} {s s' : Server} {result : Except Fault Unit}
    (h : a.release cursor s = (result, s')) :
    s.answers.head?.any Answer.releases = result.isOk ∧ s'.answers = s.answers.tail := by
  obtain ⟨rfl, rfl⟩ := Prod.mk.inj h
  refine ⟨?_, answers_exchange ..⟩
  obtain ⟨answers, requests⟩ := s
  cases answers with
  | nil => rfl
  | cons answer rest => simp [Answer.isOk_readRelease]

/-! ### Derivations as those of a script -/

/-- A scroll takes the share that a script gives it. -/
lemma share_of_follows {keepAlive : String} {page : Page} {s s' : Server} {further : List Page}
    {failure : Option Fault}
    (h : a.service.Follows keepAlive page s further failure s') :
    ∃ cause left, share (.ok page :: pageAnswers page.isEmpty s.answers) =
        ⟨page :: further, failure.map fun _ => cause, left⟩ ∧
      (failure = none → left = pageAnswers true s'.answers) := by
  induction h with
  | @finished page s he =>
    -- what is left still has the answer to the release
    refine ⟨unread, pageAnswers true s.answers, ?_, fun _ => rfl⟩
    simp [share, he]
  | @failed page s s' fault he hn =>
    obtain ⟨cause, hs⟩ := share_of_page?_eq_none (reads_nextPage hn).1
    refine ⟨cause, [], ?_, fun hf => by cases hf⟩
    simp [share, he, hs]
  | @next page page' s s' s'' further failure he hn hf ih =>
    obtain ⟨cause, left, hs, hl⟩ := ih
    obtain ⟨hp, ha⟩ := reads_nextPage hn
    refine ⟨cause, left, ?_, hl⟩
    rw [share, if_neg (by simp [he]), he, pageAnswers_of_some hp, ← ha, hs]

/-- So does an index, and the release takes the answer that the script leaves out. -/
lemma share_of_drains {index : String} {s s' : Server} {v : Visit Fault}
    (h : a.service.Drains q index s v s') :
    ((share (pageAnswers false s.answers)).visit index).map (fun _ => ()) =
        v.map (fun _ => ()) ∧
      (share (pageAnswers false s.answers)).failure.isNone = v.failure.isNone ∧
      (v.failure = none →
        (share (pageAnswers false s.answers)).left = pageAnswers false s'.answers) := by
  cases h with
  | refused ho =>
    obtain ⟨cause, hs⟩ := share_of_page?_eq_none (reads_openScroll ho).1
    rw [hs]
    exact ⟨rfl, rfl, nofun⟩
  | @drained s₁ s₂ s₃ page further failure released ho hf hr =>
    obtain ⟨hp, ha⟩ := reads_openScroll ho
    obtain ⟨cause, left, hs, hl⟩ := share_of_follows hf
    rw [pageAnswers_of_some hp, ← ha, hs]
    refine ⟨?_, ?_, ?_⟩
    · cases failure <;> rfl
    · cases failure <;> rfl
    · intro hv
      have hn : failure = none := by simpa using hv
      rw [hl hn, pageAnswers_true, (reads_release hr).2]

/-- The visits of a session are those of its script. -/
theorem visits_of_gathers {indices : List String} {s s' : Server} {vs : List (Visit Fault)}
    (h : a.service.Gathers q indices s vs s') :
    (visits indices (pageAnswers false s.answers)).map (Visit.map fun _ => ()) =
      vs.map (Visit.map fun _ => ()) := by
  induction h with
  | nil => rfl
  | stop hd hv =>
    obtain ⟨hm, hs, -⟩ := share_of_drains hd
    rw [visits, List.map_cons, hm, hs, Option.isNone_eq_false_iff.2 hv]
    rfl
  | cons hd hv hg ih =>
    obtain ⟨hm, hs, hl⟩ := share_of_drains hd
    rw [visits, List.map_cons, hm, hs, hl hv, hv]
    simpa using ih

lemma logs (a : Access) (q : Query) :
    a.service.Logs q Server.requests fun call => [a.sent q call] where
  openScroll _ _ := requests_exchange ..
  nextPage _ _ := requests_exchange ..
  release _ _ := requests_exchange ..

/-! ### Starting a session -/

lemma connect_of_isSuccess {status : Nat} (hs : isSuccess status = true) (body : String)
    (complete : Bool) (answers : List Answer) (requests : List Request) :
    a.connect ⟨.reply status body complete :: answers, requests⟩ =
      (.ok (), ⟨answers, requests ++ [a.infoRequest]⟩) := by
  have hn : rejectionName? status = none := by
    simp only [isSuccess, Bool.and_eq_true, decide_eq_true_eq] at hs
    unfold rejectionName?
    split <;> first | omega | rfl
  simp [connect, start, Server.exchange, Answer.seen, Answer.isFinal_of_isSuccess hs, hn, hs]
  rfl

end Access

/-! ### Exports -/

/-- An export of a session ends as that of its script, up to the time and the causes of failures,
and sends one request for each call. -/
theorem Access.export_script (a : Access) (plan : ExportPlan) (elapsed elapsed' : Duration)
    (server : Server) (files : FileTree) :
    let run := a.service.export plan elapsed server files
    let port := (Script.service none).export plan elapsed'
      ⟨pageAnswers false server.answers, []⟩ files
    (run.1.stamp elapsed').causeless = port.1.causeless ∧
      run.2.requests = server.requests ++ port.2.calls.map (a.sent plan.query) := by
  intro run port
  let script : Script.State := ⟨pageAnswers false server.answers, []⟩
  obtain ⟨vs, s', h⟩ := a.service.exists_gathers plan.query plan.query.indices server
  obtain ⟨ws, t', h'⟩ := (Script.service none).exists_gathers plan.query plan.query.indices script
  have hrun : run = (plan.conclude (.ofVisits (.start server) vs s') elapsed files, s') :=
    Service.export_eq h elapsed files
  have hport : port = (plan.conclude (.ofVisits (.start script) ws t') elapsed' files, t') :=
    Service.export_eq h' elapsed' files
  -- both runs make the same visits once the causes are put aside
  have hvisits : vs.map (Visit.map fun _ => ()) = ws.map (Visit.map fun _ => ()) := by
    rw [← Access.visits_of_gathers h, ← Script.visits_of_gathers h']
  have hcalls : vs.flatMap (Visit.calls plan.query) = ws.flatMap (Visit.calls plan.query) := by
    have hm := congrArg (List.flatMap (Visit.calls plan.query)) hvisits
    simpa only [List.flatMap_map, Visit.calls_map] using hm
  rw [hrun, hport]
  constructor
  · rw [plan.conclude_stamp, Outcome.causeless, Outcome.causeless,
      plan.conclude_ofVisits_map _ vs server s' script t', hvisits,
      plan.conclude_ofVisits_map _ ws script t' script t']
  · rw [(a.logs plan.query).gathers h, hcalls, (Script.logs none plan.query).gathers h']
    simp [script, List.map_eq_flatMap]

/-- What the releases of a script give if these answers come to its calls, one to each. -/
def releaseResults (answers : List Answer) : Cursor → Script.State → Except String Unit :=
  fun _ s =>
    if answers[s.calls.length]?.any Answer.releases then .ok () else .error unread

end Search

/-- An export from a server at the root of its host ends as the export of the script that its
answers are, up to the causes of failures, and its requests stand for the calls of the script one by
one. The opening of an index named by dots alone is not sent as what it stands for. -/
theorem Settings.export_refines {s : Settings} {plan : ExportPlan} (hp : s.plan = .ok plan)
    {text : String} (hu : Url.read text = .ok s.endpoint.url)
    (hroot : s.endpoint.url.path = .segments [""])
    {status : Nat} (hs : isSuccess status = true) (body : String) (complete : Bool)
    (answers : List Answer) (requests : List Search.Request) (elapsed elapsed' : Duration)
    (files : FileTree) :
    ∃ (access : Access) (outcome : Outcome Fault), s.endpoint.access = .ok access ∧
      let run := s.export elapsed ⟨.reply status body complete :: answers, requests⟩ files
      let port := ((Script.service none).releasing (releaseResults answers)).export plan elapsed'
        ⟨pageAnswers false answers, []⟩ files
      run.result = outcome.result.mapError .exporting ∧ run.files = outcome.files ∧
        (outcome.stamp elapsed').causeless = port.1.causeless ∧ run.files = port.1.files ∧
        run.server.requests =
          requests ++ access.infoRequest :: port.2.calls.map (access.sent plan.query) ∧
        access.infoRequest =
          ⟨"GET", String.ofList ('/' :: Url.partChars '?' (s.endpoint.url.query.filter (· ≠ ""))),
            access.authorization, ""⟩ ∧
        (∀ cursor server, (access.release cursor server).1.isOk =
          server.answers.head?.any Answer.releases) ∧
        (∀ call ∈ port.2.calls, access.sent plan.query call =
          if call.opened? = some "." ∨ call.opened? = some ".." then
            access.searchAt plan.query "/_search".toList
          else access.image plan.query call) ∧
        (run.server.requests =
            requests ++ access.infoRequest :: port.2.calls.map (access.image plan.query) ↔
          ∀ call ∈ port.2.calls, call.opened? ≠ some "." ∧ call.opened? ≠ some "..") := by
  obtain ⟨a, ha, hurl⟩ := Endpoint.exists_access_of_read hu
  obtain ⟨hpath, hquery⟩ :
      a.url.path = s.endpoint.url.path ∧ a.url.query = s.endpoint.url.query := by
    rcases hurl with hurl | hurl <;> simp [hurl, Url.withoutCredentials]
  have hrooted : a.url.path = .segments [""] := hpath.trans hroot
  have hconnect := a.connect_of_isSuccess hs body complete answers requests
  let server : Server := ⟨answers, requests ++ [a.infoRequest]⟩
  obtain ⟨houtcome, hrequests⟩ := a.export_script plan elapsed elapsed' server files
  have hrun : s.export elapsed ⟨.reply status body complete :: answers, requests⟩ files =
      let r := a.service.export plan elapsed server files
      ⟨r.1.result.mapError .exporting, r.1.files, r.2⟩ := by
    simp only [Settings.export, hp, ha, Service.connectAndExport, hconnect]
    rfl
  have hne : ∀ call ∈ ((Script.service none).export plan elapsed'
      ⟨pageAnswers false answers, []⟩ files).2.calls, call.opened? ≠ some "" := by
    intro call hc ho
    have hb := plan.query.indices_named "" (Script.mem_indices_of_opened hc ho)
    exact absurd hb (by decide)
  refine ⟨a, (a.service.export plan elapsed server files).1, ha, ?_⟩
  rw [hrun, Service.export_releasing]
  refine ⟨rfl, rfl, houtcome, congrArg Outcome.files houtcome, ?_, ?_, ?_, ?_, ?_⟩
  · rw [hrequests]
    simp [server]
  · rw [Access.infoRequest_of_root hrooted, hquery]
  · exact fun cursor server => (Access.reads_release rfl).1.symm
  · exact fun call hc => Access.sent_eq_ite hrooted (hne call hc)
  · rw [hrequests]
    simp only [server, List.append_assoc, List.singleton_append, List.append_cancel_left_eq,
      List.cons.injEq, true_and, List.map_inj_left]
    exact forall₂_congr fun call hc => Access.sent_eq_image_iff hrooted (hne call hc)

/-- Two dots for an index: all indices are searched. -/
theorem Settings.export_refines_of_dots :
    let range : TimeRange := ⟨"t", "date", none, none⟩
    let query : Query := ⟨[".."], 10, "1m", range, by decide, by decide, by decide⟩
    let plan : ExportPlan := ⟨query, OutputPaths.standard.targets 44, .discard⟩
    let s : Settings :=
      { mode := none
        logPath := none
        endpoint := .standard
        query := ⟨[".."], 10, "1m", "t", "date", none, none⟩
        output := ⟨"object.json", "object.csv", "objectrocket.html", ","⟩
        onSearchError := .discard }
    s.plan = .ok plan ∧ Url.read "http://localhost:9200" = .ok s.endpoint.url ∧
      s.endpoint.url.path = .segments [""] ∧ isSuccess 200 = true ∧
      ∀ files, (s.export ⟨1, 0⟩ ⟨[.reply 200 "{}" true], []⟩ files).server.requests.map
        (fun r => (r.method, r.target)) =
          [("GET", "/"), ("POST", "/_search?scroll=1m")] := by
  intro range query plan s
  have hq : s.toQuery = .ok query := by
    simp only [s, query, range]
    rfl
  have hd : s.delimiter = .ok 44 := by
    simp only [s]
    rfl
  have hp : s.plan = .ok plan := by
    rw [Settings.plan, hq, hd]
    rfl
  have hu : Url.read "http://localhost:9200" = .ok s.endpoint.url := by rfl
  have hroot : s.endpoint.url.path = .segments [""] := by rfl
  have hs : isSuccess 200 = true := by rfl
  refine ⟨hp, hu, hroot, hs, fun files => ?_⟩
  obtain ⟨a, outcome, ha, -, -, -, -, hrequests, hinfo, -, hdots, -⟩ :=
    Settings.export_refines hp hu hroot hs "{}" true [] [] ⟨1, 0⟩ ⟨2, 0⟩ files
  have hcalls : (((Script.service none).releasing (releaseResults [])).export plan ⟨2, 0⟩
      ⟨pageAnswers false [], []⟩ files).2.calls = [.openScroll ".." 10] := by rfl
  rw [hrequests, hcalls, hinfo, List.map_singleton, hdots _ (by simp [hcalls])]
  simp only [s, Endpoint.standard, plan, query, Access.searchAt]
  rfl

end ScrollExport
