import ScrollExport.Proofs.Search.Release

/-!
# Admission

An export asks for nothing and touches no file before its settings are checked and the server has
answered. Settings that are refused have no effect at all; otherwise the server is asked once for
its root, and it is searched only if the answer tells of success (`Settings.export_admitted`).
-/

namespace ScrollExport

open Search
open Script (Call)

/-! ### Folders -/

namespace Url

/-- A folder differs in its path alone. -/
lemma query_asFolder (u : Url) : u.asFolder.query = u.query := by
  rw [asFolder]
  split
  · split_ifs <;> rfl
  · rfl

lemma path_asFolder_withoutCredentials (u : Url) :
    u.withoutCredentials.asFolder.path = u.asFolder.path := by
  rw [asFolder, asFolder, withoutCredentials]
  cases hp : u.path with
  | segments names => by_cases hn : names.getLast? = some "" <;> simp [hn, hp]
  | opaquePath text => simp [hp]

end Url

namespace Search

/-! ### The first answer -/

/-- The status of an answer, if a client sees one. -/
def Answer.status? (answer : Answer) : Option Nat :=
  match answer.seen with
  | .silence => none
  | .reply status _ _ => some status

lemma Server.fst_exchange (s : Server) (r : Request) :
    (s.exchange r).1 = (s.answers.head?.getD .exhausted).seen := by
  obtain ⟨answers, requests⟩ := s
  cases answers <;> rfl

lemma isSome_rejectionName? {status : Nat} :
    (rejectionName? status).isSome = true ↔ status = 401 ∨ status = 403 := by
  unfold rejectionName?
  split
  · simp
  · simp
  · simp_all

/-- The status of the next answer of a server. There is none if it stays silent. -/
def Server.nextStatus? (s : Server) : Option Nat :=
  (s.answers.head?.getD .exhausted).status?

/-- Whether the next answer of a server tells of success. -/
def Server.admits (s : Server) : Bool :=
  s.nextStatus?.any isSuccess

namespace Access

variable {a : Access} {s : Server}

/-- How a session starts depends on the first status alone. -/
lemma fst_start (a : Access) (s : Server) :
    (a.start s).1 =
      match s.nextStatus? with
      | none => .error (.unreachable a.url.toText)
      | some status =>
        if (rejectionName? status).isSome then .error (.credentials a.url.toText status)
        else if isSuccess status then .ok ()
        else .error (.status status) := by
  rw [start, Server.nextStatus?, Answer.status?, ← s.fst_exchange a.infoRequest]
  obtain ⟨answer, s'⟩ := s.exchange a.infoRequest
  cases answer with
  | silence => rfl
  | reply status body complete =>
    simp only
    split_ifs <;> rfl

lemma connect_eq_ok_iff (a : Access) (s : Server) :
    (a.connect s).1 = .ok () ↔ s.admits = true := by
  rw [connect, fst_start, Server.admits]
  cases hs : s.nextStatus? with
  | none => simp [Except.mapError]
  | some status =>
    have hn : (rejectionName? status).isSome = true → isSuccess status = false := by
      rw [isSome_rejectionName?]
      rintro (rfl | rfl) <;> rfl
    simp only [Option.any_some]
    split_ifs with hr hsuccess
    · simp [Except.mapError, hn hr]
    · simp [Except.mapError, hsuccess]
    · simp [Except.mapError, hsuccess]

/-- Only two statuses are about who asks. -/
lemma authentication_iff {cause : ConnectionError} (h : (a.connect s).1 = .error cause) :
    (∃ details, cause = .authentication details) ↔
      s.nextStatus? = some 401 ∨ s.nextStatus? = some 403 := by
  rw [connect, fst_start] at h
  cases hs : s.nextStatus? with
  | none =>
    rw [hs] at h
    obtain rfl := Except.error.inj h
    simp [Refusal.toConnectionError]
  | some status =>
    simp only [hs, Option.some.injEq] at h ⊢
    rw [← isSome_rejectionName?]
    split_ifs at h with hr hsuccess
    · obtain rfl := Except.error.inj h
      simp [Refusal.toConnectionError, hr]
    · cases h
    · obtain rfl := Except.error.inj h
      simp [Refusal.toConnectionError, hr]

/-! ### Endpoints -/

section Endpoint

variable {u : Url} (hu : a.url = u ∨ a.url = u.withoutCredentials)

include hu

lemma path_base : a.base.path = u.asFolder.path := by
  rw [base]
  rcases hu with hu | hu
  · rw [hu]
  · rw [hu, Url.path_asFolder_withoutCredentials]

/-- The first request goes to the path of the endpoint, taken for a folder. -/
lemma infoRequest_of_url :
    a.infoRequest =
      ⟨"GET", String.ofList (Url.pathChars u.asFolder.path ++
        Url.partChars '?' (u.query.filter (· ≠ ""))), a.authorization, ""⟩ := by
  rw [infoRequest_eq, path_base hu, base, Url.query_asFolder]
  rcases hu with hu | hu <;> rw [hu]
  rfl

end Endpoint

/-! ### Exports -/

lemma calls_ne_nil {q : Query} {s' : Server} {vs : List (Visit Fault)}
    (h : a.service.Gathers q q.indices s vs s') : vs.flatMap (Visit.calls q) ≠ [] := by
  have hne := q.indices_ne_nil
  generalize q.indices = indices at h hne
  cases h with
  | nil => exact absurd rfl hne
  | stop hd hv => simp [Visit.calls]
  | cons hd hv hg => simp [Visit.calls]

/-- A session that is not admitted makes no call and touches no file. -/
lemma connectAndExport_admitted (a : Access) (plan : ExportPlan) (elapsed : Duration)
    (server : Server) (files : FileTree) :
    let r := a.service.connectAndExport a.connect plan elapsed server files
    ∃ calls : List Call,
      r.2.requests = server.requests ++ a.infoRequest :: calls.map (a.sent plan.query) ∧
      (calls ≠ [] ↔ server.admits = true) ∧
      (r.1.files ≠ files → server.admits = true) ∧
      (server.admits = false → ∃ cause, r.1.result = .error (.connection cause) ∧
        ((∃ details, cause = .authentication details) ↔
          server.nextStatus? = some 401 ∨ server.nextStatus? = some 403)) := by
  intro r
  obtain ⟨cause, hcause, hr⟩ | ⟨hok, hr⟩ :=
    a.connectAndExport_cases plan elapsed server files
  · have ha : ¬ server.admits = true := by
      simp [← a.connect_eq_ok_iff, hcause]
    refine ⟨[], by simp [r, hr, Server.after], by simp [ha], by simp [r, hr], fun _ => ?_⟩
    exact ⟨cause, by simp [r, hr], authentication_iff hcause⟩
  · have ha : server.admits = true := (a.connect_eq_ok_iff server).1 hok
    obtain ⟨vs, s', hg⟩ :=
      a.service.exists_gathers plan.query plan.query.indices (server.after [a.infoRequest])
    have hs : r.2 = s' := by simp only [r, hr, Service.export_eq hg]
    refine ⟨vs.flatMap (Visit.calls plan.query), ?_, iff_of_true (calls_ne_nil hg) ha, fun _ => ha,
      fun hn => ?_⟩
    · rw [hs, (a.logs plan.query).gathers hg, List.map_eq_flatMap]
      simp [Server.after]
    · rw [ha] at hn
      cases hn

end Access

end Search

lemma Settings.exists_plan_eq_error {s : Settings}
    (h : (s.toQuery.isOk && s.delimiter.isOk) = false) : ∃ e, s.plan = .error e := by
  cases hp : s.plan with
  | error e => exact ⟨e, rfl⟩
  | ok plan =>
    obtain ⟨query, delimiter, hq, hd, -⟩ := Settings.plan_eq_ok_iff.1 hp
    rw [hq, hd] at h
    cases h

/-- Settings that are refused have no effect. Otherwise the server is asked for its root first.
Everything else is asked for, and a file is touched, only if the answer tells of success; without
one the export ends with the reason why there is no connection. -/
theorem Settings.export_admitted {s : Settings} {text : String}
    (hu : Url.read text = .ok s.endpoint.url) (elapsed : Duration) (server : Server)
    (files : FileTree) :
    let run := s.export elapsed server files
    ((s.toQuery.isOk && s.delimiter.isOk) = false →
      (∃ e, run.result = .error (.settings e)) ∧ run.server = server ∧ run.files = files) ∧
    ∀ query delimiter, s.toQuery = .ok query → s.delimiter = .ok delimiter →
      ∃ (access : Access) (calls : List Call), s.endpoint.access = .ok access ∧
        run.server.requests =
          server.requests ++ access.infoRequest :: calls.map (access.sent query) ∧
        access.infoRequest =
          ⟨"GET", String.ofList (Url.pathChars s.endpoint.url.asFolder.path ++
            Url.partChars '?' (s.endpoint.url.query.filter (· ≠ ""))), access.authorization, ""⟩ ∧
        (calls ≠ [] ↔ server.admits = true) ∧
        (run.files ≠ files → server.admits = true) ∧
        (server.admits = false →
          ∃ cause, run.result = .error (.exporting (.connection cause)) ∧
            ((∃ details, cause = .authentication details) ↔
              server.nextStatus? = some 401 ∨ server.nextStatus? = some 403)) := by
  intro run
  constructor
  · intro hn
    obtain ⟨e, he⟩ := s.exists_plan_eq_error hn
    have hrun : run = ⟨.error (.settings e), files, server⟩ := by
      simp only [run, Settings.export, he]
    rw [hrun]
    exact ⟨⟨e, rfl⟩, rfl, rfl⟩
  · intro query delimiter hq hd
    let plan : ExportPlan := ⟨query, s.outputPaths.targets delimiter, s.onSearchError⟩
    have hp : s.plan = .ok plan := Settings.plan_eq_ok_iff.2 ⟨query, delimiter, hq, hd, rfl⟩
    obtain ⟨a, ha, hurl⟩ := Endpoint.exists_access_of_read hu
    obtain ⟨calls, hcalls, hiff, hfiles, hresult⟩ :=
      a.connectAndExport_admitted plan elapsed server files
    have hrun : run =
        let r := a.service.connectAndExport a.connect plan elapsed server files
        ⟨r.1.result.mapError .exporting, r.1.files, r.2⟩ := by
      simp only [run, Settings.export, hp, ha]
    rw [hrun]
    refine ⟨a, calls, ha, hcalls, Access.infoRequest_of_url hurl, hiff, hfiles, fun hn => ?_⟩
    obtain ⟨cause, hc, hcause⟩ := hresult hn
    exact ⟨cause, congrArg (Except.mapError RunError.exporting) hc, hcause⟩

/-- Credentials that are refused: one request, and no file. -/
theorem Settings.export_admitted_of_rejection :
    let s : Settings :=
      { mode := none
        logPath := none
        endpoint := .standard
        query := ⟨["a"], 10, "1m", "t", "date", none, none⟩
        output := ⟨"object.json", "object.csv", "objectrocket.html", ","⟩
        onSearchError := .keep }
    Url.read "http://localhost:9200" = .ok s.endpoint.url ∧
      ∀ files,
        let run := s.export ⟨1, 0⟩ ⟨[.reply 401 "no" true, .reply 200 "{}" true], []⟩ files
        (∃ details, run.result = .error (.exporting (.connection (.authentication details)))) ∧
          run.server.requests.map (fun r => (r.method, r.target)) = [("GET", "/")] ∧
          run.files = files := by
  intro s
  have hu : Url.read "http://localhost:9200" = .ok s.endpoint.url := by rfl
  have hq : s.toQuery = .ok ⟨["a"], 10, "1m", ⟨"t", "date", none, none⟩, by decide, by decide,
      by decide⟩ := by
    simp only [s]
    rfl
  have hd : s.delimiter = .ok 44 := by
    simp only [s]
    rfl
  refine ⟨hu, fun files => ?_⟩
  let server : Server := ⟨[.reply 401 "no" true, .reply 200 "{}" true], []⟩
  obtain ⟨access, calls, ha, hrequests, hinfo, hcalls, hfiles, hresult⟩ :=
    (Settings.export_admitted hu ⟨1, 0⟩ server files).2 _ _ hq hd
  obtain rfl : access = ⟨Endpoint.standard.url, none⟩ := (Except.ok.inj ha).symm
  have hadmits : server.admits = false := by rfl
  rw [hadmits] at hcalls hfiles
  obtain rfl : calls = [] := not_not.1 fun hne => absurd (hcalls.1 hne) (by decide)
  obtain ⟨cause, hresult, hcause⟩ := hresult hadmits
  obtain ⟨details, rfl⟩ := hcause.2 (.inl rfl)
  refine ⟨⟨details, hresult⟩, ?_, not_not.1 fun hne => absurd (hfiles hne) (by decide)⟩
  rw [hrequests, hinfo]
  rfl

end ScrollExport
