import ScrollExport.Proofs.Output.Identity
import ScrollExport.Proofs.Search.Refinement

/-!
# Scrolls that a server opens

A server opens a scroll with any answer that tells of success and has a scroll id, whatever else
the answer holds. The session takes an answer for a page only if all of it can be read, and a scroll
whose first answer is no page is never released: the export ends with that answer. Every other
scroll is released before another index is searched (`Settings.releases_iff_page`).
-/

namespace ScrollExport

open Search
open Json (Tree)

namespace Search

/-! ### Transcripts -/

/-- Requests beside the answers that come to them. -/
def exchanges (answers : List Answer) : List Request → List (Request × Answer)
  | [] => []
  | r :: rs => (r, answers.head?.getD .exhausted) :: exchanges answers.tail rs

lemma exchanges_append (answers : List Answer) (rs rs' : List Request) :
    exchanges answers (rs ++ rs') =
      exchanges answers rs ++ exchanges (answers.drop rs.length) rs' := by
  induction rs generalizing answers with
  | nil => rfl
  | cons r rs ih =>
    rw [List.cons_append, exchanges, ih, exchanges, List.cons_append, List.drop_tail,
      List.length_cons]

lemma fst_mem_of_mem_exchanges {answers : List Answer} {rs : List Request}
    {x : Request × Answer} (h : x ∈ exchanges answers rs) : x.1 ∈ rs := by
  induction rs generalizing answers with
  | nil => cases h
  | cons r rs ih =>
    rcases List.mem_cons.1 h with rfl | h
    · exact List.mem_cons_self ..
    · exact List.mem_cons_of_mem r (ih h)

namespace Server

/-- The server after some requests. -/
def after (s : Server) (rs : List Request) : Server :=
  ⟨s.answers.drop rs.length, s.requests ++ rs⟩

lemma after_nil (s : Server) : s.after [] = s := by
  simp [after]

lemma after_after (s : Server) (rs rs' : List Request) :
    (s.after rs).after rs' = s.after (rs ++ rs') := by
  simp [after]

lemma answers_after_singleton (s : Server) (r : Request) :
    (s.after [r]).answers = s.answers.tail :=
  List.drop_one

lemma snd_exchange (s : Server) (r : Request) : (s.exchange r).2 = s.after [r] := by
  obtain ⟨answers, requests⟩ := s
  cases answers <;> rfl

lemma page?_eq (s : Server) : s.page? = (s.answers.head?.getD .exhausted).page? := by
  obtain ⟨answers, requests⟩ := s
  cases answers <;> rfl

end Server

/-! ### Scroll ids -/

/-- The scroll id of an object, if it is a text. -/
def scrollId? (t : Tree) : Option Cursor :=
  (t.member? "_scroll_id").bind Response.text?

/-- The scroll that an answer to a search opens. -/
def Answer.opened? : Answer → Option Cursor
  | .silence => none
  | .reply status body _ =>
    if isSuccess status then (Tree.ofChars? body.toList).bind scrollId? else none

namespace Response

lemma member?_of_member? {members : List (Option String × Tree)} {key : String} {t : Tree}
    (h : member? members key = some (some t)) : (Tree.obj members).member? key = some t := by
  rw [Tree.member?, Keyed.get?_ofList]
  rw [member?] at h
  split at h
  · cases h
  · rename_i m hm
    simp only [Option.some.injEq] at h
    rw [hm, List.getLast?_singleton, Option.map_some, h]
  · cases h

lemma text?_of_optionText? {t : Tree} {s : String} (h : optionText? t = some (some s)) :
    text? t = some s := by
  cases t <;> simp_all [optionText?, text?]

/-- The scroll id of a response is that of the object it is read from. -/
lemma scrollId?_of_ofTree? {members : List (Option String × Tree)} {r : Response} {id : Cursor}
    (hr : ofTree? (.obj members) = some r) (hs : r.scrollId = some id) :
    scrollId? (.obj members) = some id := by
  simp only [ofTree?, Option.bind_eq_bind] at hr
  split at hr
  · cases hr
  rw [Option.bind_eq_some_iff] at hr
  obtain ⟨found, hf, hr⟩ := hr
  cases found with
  | none =>
    simp only [Option.bind_eq_some_iff, Option.some.injEq] at hr
    obtain ⟨_, rfl, _, -, _, -, rfl⟩ := hr
    cases hs
  | some t =>
    simp only [Option.bind_eq_some_iff, Option.some.injEq] at hr
    obtain ⟨scrollId, ht, _, -, _, -, rfl⟩ := hr
    rw [scrollId?, member?_of_member? hf, Option.bind_some]
    exact text?_of_optionText? (ht.trans (congrArg some hs))

lemma read?_empty : read? "" = none := by
  simp only [read?, Tree.ofChars?, String.toList_empty, Json.tokens?]
  rfl

end Response

namespace Answer

lemma opened?_reply_compact {status : Nat} (hs : isSuccess status = true) (v : Json)
    (complete : Bool) :
    (Answer.reply status v.compact complete).opened? = scrollId? (Tree.ofJson v) := by
  rw [opened?, if_pos hs, Json.compact, String.toList_ofList, Tree.ofChars?_render,
    Option.bind_some]

lemma page?_reply_compact {status : Nat} (hs : isSuccess status = true)
    (hn : hasNoBody status = false) (v : Json) :
    (Answer.reply status v.compact true).page? =
      (Response.ofTree? (Tree.ofJson v)).bind Response.page? := by
  rw [page?, if_pos hs, visibleBody?, hn, if_neg (by decide), if_pos rfl, Option.bind_some,
    Response.read?, Json.compact, String.toList_ofList, Tree.ofChars?_render, Option.bind_some]

end Answer

lemma eq_of_visibleBody? {status : Nat} {body text : String} {complete : Bool} {r : Response}
    (hv : visibleBody? status body complete = some text) (hr : Response.read? text = some r) :
    text = body := by
  rw [visibleBody?] at hv
  split_ifs at hv
  · obtain rfl := Option.some.inj hv
    simp [Response.read?_empty] at hr
  · exact (Option.some.inj hv).symm

/-- A page has the scroll id of its answer. -/
lemma Answer.cursor_of_page? {answer : Answer} {page : Page} {id : Cursor}
    (hp : answer.page? = some page) (ho : answer.opened? = some id) : page.cursor = id := by
  cases answer with
  | silence => cases hp
  | reply status body complete =>
    rw [page?] at hp
    rw [opened?] at ho
    split_ifs at hp ho
    simp only [Option.bind_eq_some_iff] at hp ho
    obtain ⟨r, ⟨text, hv, hr⟩, hp⟩ := hp
    obtain ⟨t, ht, hi⟩ := ho
    obtain rfl := eq_of_visibleBody? hv hr
    rw [Response.read?, ht, Option.bind_some] at hr
    cases t with
    | obj members =>
      rw [Response.page?, Option.map_eq_some_iff] at hp
      obtain ⟨cursor, hc, rfl⟩ := hp
      exact Option.some.inj ((Response.scrollId?_of_ofTree? hr hc).symm.trans hi)
    | _ => cases hi

namespace Access

variable {a : Access} {q : Query}

/-! ### Kinds of requests -/

/-- The request asks for more of a scroll. -/
def Continues (a : Access) (r : Request) : Prop :=
  ∃ cursor keepAlive, r = a.continuationRequest cursor keepAlive

lemma releaseRequest_ne_openingRequest (a : Access) (cursor : Cursor) (q : Query) (index : String) :
    a.releaseRequest cursor ≠ a.openingRequest q index :=
  fun h => absurd (congrArg Request.method h) (by decide : "DELETE" ≠ "POST")

lemma infoRequest_ne_openingRequest (a : Access) (q : Query) (index : String) :
    a.infoRequest ≠ a.openingRequest q index :=
  fun h => absurd (congrArg Request.method h) (by decide : "GET" ≠ "POST")

lemma getElem?_openingBody (q : Query) : (openingBody q).compact.toList[3]? = some 'i' := by
  rw [Json.compact, openingBody, Json.render, Json.renderMembers, Json.renderMembers,
    String.toList_ofList]
  rfl

lemma getElem?_continuationBody (keepAlive cursor : String) :
    (Json.obj [("scroll", .str keepAlive), ("scroll_id", .str cursor)]).compact.toList[3]? =
      some 'c' := by
  rw [Json.compact, Json.render, Json.renderMembers, Json.renderMembers, String.toList_ofList]
  rfl

/-- An index can have a name that makes the path of a search that of a continuation, so only their
bodies tell them apart: the first key of one is `size`, that of the other `scroll`. -/
lemma Continues.ne_openingRequest {r : Request} (hr : a.Continues r) (q : Query)
    (index : String) : r ≠ a.openingRequest q index := by
  obtain ⟨cursor, keepAlive, rfl⟩ := hr
  intro h
  have hb : (Json.obj [("scroll", .str keepAlive), ("scroll_id", .str cursor)]).compact =
      (openingBody q).compact := congrArg Request.body h
  have hc := getElem?_continuationBody keepAlive cursor
  rw [hb, getElem?_openingBody] at hc
  exact absurd hc (by decide)

/-! ### Releases -/

/-- After the scroll `id` is opened, requests that continue a scroll are followed by the release of
`id` or of a cursor that came with a page in between. -/
def Releases (a : Access) (id : Cursor) (log : List (Request × Answer)) : Prop :=
  ∃ continued cursor answer rest,
    log = continued ++ (a.releaseRequest cursor, answer) :: rest ∧
      (∀ x ∈ continued, a.Continues x.1) ∧
      (cursor = id ∨ ∃ x ∈ continued, x.2.page?.map Page.cursor = some cursor)

lemma Releases.append {id : Cursor} {log : List (Request × Answer)} (h : a.Releases id log)
    (more : List (Request × Answer)) : a.Releases id (log ++ more) := by
  obtain ⟨continued, cursor, answer, rest, rfl, hc, hid⟩ := h
  exact ⟨continued, cursor, answer, rest ++ more, by simp, hc, hid⟩

lemma not_releases_nil (id : Cursor) : ¬ a.Releases id [] := by
  rintro ⟨continued, cursor, answer, rest, h, -, -⟩
  simp at h

/-- Of the scrolls that are opened in a log, exactly those are released before anything else is
searched whose first answer is a page, and the log ends with any other. -/
def Settles (a : Access) (q : Query) (log : List (Request × Answer)) : Prop :=
  ∀ before index answer after id,
    log = before ++ (a.openingRequest q index, answer) :: after →
      answer.opened? = some id →
        (a.Releases id after ↔ answer.page?.isSome = true) ∧ (answer.page? = none → after = [])

lemma settles_of_forall_ne {log : List (Request × Answer)}
    (h : ∀ x ∈ log, ∀ index, x.1 ≠ a.openingRequest q index) : a.Settles q log := by
  rintro before index answer after id rfl -
  exact absurd rfl (h (a.openingRequest q index, answer) (by simp) index)

lemma Settles.append {log log' : List (Request × Answer)}
    (h : ∀ x ∈ log, ∀ index, x.1 ≠ a.openingRequest q index) (h' : a.Settles q log') :
    a.Settles q (log ++ log') := by
  intro before index answer after id hl ho
  rcases List.append_eq_append_iff.1 hl with ⟨middle, rfl, hm⟩ | ⟨middle, rfl, hm⟩
  · exact h' middle index answer after id hm ho
  · cases middle with
    | nil => exact h' [] index answer after id hm.symm ho
    | cons x middle =>
      obtain ⟨rfl, -⟩ := List.cons.inj hm
      exact absurd rfl (h (a.openingRequest q index, answer) (by simp) index)

/-- An opening settles if its page leads to a release and nothing follows without a page. -/
lemma Settles.cons {index : String} {answer : Answer} {log : List (Request × Answer)}
    (hp : ∀ page, answer.page? = some page → a.Releases page.cursor log)
    (hn : answer.page? = none → log = []) (h : a.Settles q log) :
    a.Settles q ((a.openingRequest q index, answer) :: log) := by
  intro before index' answer' after id hl ho
  cases before with
  | cons x before => exact h before index' answer' after id (List.cons.inj hl).2 ho
  | nil =>
    obtain ⟨hx, rfl⟩ := List.cons.inj hl
    obtain rfl := congrArg Prod.snd hx
    refine ⟨⟨fun hr => ?_, fun hs => ?_⟩, hn⟩
    · by_contra hs
      rw [hn (Option.not_isSome_iff_eq_none.1 hs)] at hr
      exact not_releases_nil id hr
    · obtain ⟨page, hs⟩ := Option.isSome_iff_exists.1 hs
      exact Answer.cursor_of_page? hs ho ▸ hp page hs

/-! ### Requests of a run -/

lemma eq_after_of_openScroll {index : String} {s s' : Server} {result : Except Fault Page}
    (h : a.openScroll q index s = (result, s')) : s' = s.after [a.openingRequest q index] :=
  (Prod.mk.inj h).2.symm.trans (s.snd_exchange _)

lemma eq_after_of_nextPage {cursor : Cursor} {keepAlive : String} {s s' : Server}
    {result : Except Fault Page} (h : a.nextPage cursor keepAlive s = (result, s')) :
    s' = s.after [a.continuationRequest cursor keepAlive] :=
  (Prod.mk.inj h).2.symm.trans (s.snd_exchange _)

lemma eq_after_of_release {cursor : Cursor} {s s' : Server} {result : Except Fault Unit}
    (h : a.release cursor s = (result, s')) : s' = s.after [a.releaseRequest cursor] :=
  (Prod.mk.inj h).2.symm.trans (s.snd_exchange _)

/-- Following a scroll only continues it, and the cursor at the end came with one of its pages. -/
lemma requests_of_follows {keepAlive : String} {page : Page} {s s' : Server}
    {further : List Page} {failure : Option Fault}
    (h : a.service.Follows keepAlive page s further failure s') :
    ∃ rs, s' = s.after rs ∧ (∀ r ∈ rs, a.Continues r) ∧
      ((further.getLast?.getD page).cursor = page.cursor ∨
        ∃ x ∈ exchanges s.answers rs,
          x.2.page?.map Page.cursor = some (further.getLast?.getD page).cursor) := by
  induction h with
  | finished he => exact ⟨[], (Server.after_nil _).symm, by simp, .inl rfl⟩
  | failed he hn =>
    refine ⟨_, eq_after_of_nextPage hn, fun r hr => ?_, .inl rfl⟩
    exact ⟨_, _, List.mem_singleton.1 hr⟩
  | @next page page' s s' s'' further failure he hn hf ih =>
    obtain ⟨rs, rfl, hc, hlast⟩ := ih
    have hp : (s.answers.head?.getD .exhausted).page? = some page' :=
      s.page?_eq.symm.trans (reads_nextPage hn).1
    obtain rfl := eq_after_of_nextPage hn
    rw [List.getLast?_cons, Option.getD_some]
    refine ⟨_, Server.after_after .., List.forall_mem_cons.2 ⟨⟨_, _, rfl⟩, hc⟩, .inr ?_⟩
    rcases hlast with hlast | ⟨x, hx, hlast⟩
    · exact ⟨_, List.mem_cons_self .., by rw [hlast, hp]; rfl⟩
    · rw [Server.answers_after_singleton] at hx
      exact ⟨x, List.mem_cons_of_mem _ hx, hlast⟩

/-- An index takes its opening first. If a page comes, its scroll is continued and released;
otherwise the index has failed, and nothing else is asked for. -/
lemma requests_of_drains {index : String} {s s' : Server} {v : Visit Fault}
    (h : a.service.Drains q index s v s') :
    ∃ rs, s' = s.after (a.openingRequest q index :: rs) ∧
      (∀ r ∈ rs, ∀ index', r ≠ a.openingRequest q index') ∧
      (∀ page, s.page? = some page → a.Releases page.cursor (exchanges s.answers.tail rs)) ∧
      (s.page? = none → rs = [] ∧ v.failure.isSome = true) := by
  cases h with
  | refused ho =>
    have hp : s.page? = none := (reads_openScroll ho).1
    exact ⟨[], eq_after_of_openScroll ho, by simp, by simp [hp], fun _ => ⟨rfl, rfl⟩⟩
  | @drained s₁ s₂ s₃ page further failure released ho hf hr =>
    have hp : s.page? = some page := (reads_openScroll ho).1
    obtain rfl := eq_after_of_openScroll ho
    obtain ⟨rs, rfl, hc, hlast⟩ := requests_of_follows hf
    obtain rfl := eq_after_of_release hr
    let cursor := (further.getLast?.getD page).cursor
    refine ⟨rs ++ [a.releaseRequest cursor], ?_, ?_, ?_, ?_⟩
    · rw [Server.after_after, Server.after_after]
      rfl
    · intro r hr index'
      rcases List.mem_append.1 hr with hr | hr
      · exact (hc r hr).ne_openingRequest q index'
      · rw [List.mem_singleton.1 hr]
        exact a.releaseRequest_ne_openingRequest cursor q index'
    · intro page' hp'
      obtain rfl : page = page' := Option.some.inj (hp.symm.trans hp')
      rw [Server.answers_after_singleton] at hlast
      rw [exchanges_append]
      exact ⟨_, cursor, _, [], rfl, fun x hx => hc x.1 (fst_mem_of_mem_exchanges hx), hlast⟩
    · simp [hp]

/-- Index after index, whatever is opened settles. -/
lemma settles_of_gathers {indices : List String} {s s' : Server} {vs : List (Visit Fault)}
    (h : a.service.Gathers q indices s vs s') :
    ∃ rs, s' = s.after rs ∧ a.Settles q (exchanges s.answers rs) := by
  induction h with
  | nil => exact ⟨[], (Server.after_nil _).symm, settles_of_forall_ne (by simp [exchanges])⟩
  | @stop index rest s s' v hd hv =>
    obtain ⟨rs, rfl, hne, hp, hn⟩ := requests_of_drains hd
    rw [s.page?_eq] at hp hn
    refine ⟨_, rfl, Settles.cons hp (fun h => by rw [(hn h).1]; rfl) ?_⟩
    exact settles_of_forall_ne fun x hx => hne x.1 (fst_mem_of_mem_exchanges hx)
  | @cons index rest s s' s'' v vs hd hv hg ih =>
    obtain ⟨rs, rfl, hne, hp, hn⟩ := requests_of_drains hd
    obtain ⟨rs', rfl, hs⟩ := ih
    rw [s.page?_eq] at hp hn
    -- an index without a page fails, and the indices after it are not searched
    have hpage : (s.answers.head?.getD .exhausted).page? ≠ none := fun h => by
      simp [hv] at hn
      exact hn h
    refine ⟨_, Server.after_after .., ?_⟩
    rw [List.cons_append, exchanges, exchanges_append]
    refine Settles.cons (fun page h => (hp page h).append _) (fun h => absurd h hpage) ?_
    refine Settles.append (fun x hx => hne x.1 (fst_mem_of_mem_exchanges hx)) ?_
    rwa [Server.after, List.length_cons, ← List.drop_tail] at hs

/-- Nothing is asked for after an opening without a page. -/
lemma eq_after_of_gathers {index : String} {rest : List String} {s s' : Server}
    {vs : List (Visit Fault)} (hp : s.page? = none)
    (h : a.service.Gathers q (index :: rest) s vs s') :
    s' = s.after [a.openingRequest q index] := by
  cases h with
  | stop hd hv =>
    obtain ⟨rs, rfl, -, -, hn⟩ := requests_of_drains hd
    rw [(hn hp).1]
  | cons hd hv hg =>
    obtain ⟨rs, -, -, -, hn⟩ := requests_of_drains hd
    simp [hv] at hn
    exact absurd hp hn

/-- A session starts with one request. -/
lemma snd_start (a : Access) (s : Server) : (a.start s).2 = s.after [a.infoRequest] := by
  rw [start, ← s.snd_exchange]
  split <;> rename_i hx
  · rw [hx]
  · split_ifs <;> rw [hx]

/-- An export asks for the root of the endpoint, and then it either ends or goes on. -/
lemma connectAndExport_cases (a : Access) (plan : ExportPlan) (elapsed : Duration) (s : Server)
    (files : FileTree) :
    (∃ cause, (a.connect s).1 = .error cause ∧
      a.service.connectAndExport a.connect plan elapsed s files =
        (⟨.error (.connection cause), files⟩, s.after [a.infoRequest])) ∨
    ((a.connect s).1 = .ok () ∧
      a.service.connectAndExport a.connect plan elapsed s files =
        a.service.export plan elapsed (s.after [a.infoRequest]) files) := by
  have hs : (a.connect s).2 = s.after [a.infoRequest] := a.snd_start s
  cases hc : a.connect s with
  | mk result s' =>
    rw [hc] at hs
    obtain rfl : s' = _ := hs
    cases result with
    | error cause => exact .inl ⟨cause, rfl, by simp only [Service.connectAndExport, hc]⟩
    | ok _ => exact .inr ⟨rfl, by simp only [Service.connectAndExport, hc]⟩

end Access

end Search

/-- Of the scrolls that the server opens for an export, exactly those are released, and before
another index is searched, whose first answer is a page. The export ends with any other. -/
theorem Settings.releases_iff_page {s : Settings} {plan : ExportPlan} (hp : s.plan = .ok plan)
    {access : Access} (ha : s.endpoint.access = .ok access) (elapsed : Duration) (server : Server)
    (files : FileTree) :
    ∃ rs, (s.export elapsed server files).server.requests = server.requests ++ rs ∧
      access.Settles plan.query (exchanges server.answers rs) := by
  let info := [access.infoRequest]
  have hinfo : ∀ x ∈ exchanges server.answers info, ∀ index,
      x.1 ≠ access.openingRequest plan.query index := by
    intro x hx index
    rw [List.mem_singleton.1 (fst_mem_of_mem_exchanges hx)]
    exact access.infoRequest_ne_openingRequest plan.query index
  simp only [Settings.export, hp, ha]
  obtain ⟨cause, -, hrun⟩ | ⟨-, hrun⟩ :=
    access.connectAndExport_cases plan elapsed server files
  · rw [hrun]
    exact ⟨info, rfl, Access.settles_of_forall_ne hinfo⟩
  · obtain ⟨vs, s', h⟩ :=
      access.service.exists_gathers plan.query plan.query.indices (server.after info)
    obtain ⟨rs, rfl, hsettles⟩ := Access.settles_of_gathers h
    refine ⟨info ++ rs, ?_, ?_⟩
    · rw [hrun, Service.export_eq h, Server.after_after]
      rfl
    · rw [exchanges_append]
      exact hsettles.append hinfo

/-- An answer that only tells the scroll id: the server keeps the scroll. -/
theorem Settings.releases_iff_page_of_bare :
    let range : TimeRange := ⟨"t", "date", none, none⟩
    let query : Query := ⟨["a"], 10, "1m", range, by decide, by decide, by decide⟩
    let plan : ExportPlan := ⟨query, OutputPaths.standard.targets 44, .discard⟩
    let access : Access := ⟨Endpoint.standard.url, none⟩
    let s : Settings :=
      { mode := none
        logPath := none
        endpoint := .standard
        query := ⟨["a"], 10, "1m", "t", "date", none, none⟩
        output := ⟨"object.json", "object.csv", "objectrocket.html", ","⟩
        onSearchError := .discard }
    let answer : Answer := .reply 200 (Json.obj [("_scroll_id", .str "c1")]).compact true
    s.plan = .ok plan ∧ s.endpoint.access = .ok access ∧ answer.opened? = some "c1" ∧
      ∀ files, (s.export ⟨1, 0⟩ ⟨[.reply 200 "{}" true, answer], []⟩ files).server.requests =
        [access.infoRequest, access.openingRequest query "a"] ∧ ¬ access.Releases "c1" [] := by
  intro range query plan access s answer
  have hq : s.toQuery = .ok query := by
    simp only [s, query, range]
    rfl
  have hd : s.delimiter = .ok 44 := by
    simp only [s]
    rfl
  have hp : s.plan = .ok plan := by
    rw [Settings.plan, hq, hd]
    rfl
  have ha : s.endpoint.access = .ok access := by rfl
  let body : Json := .obj [("_scroll_id", .str "c1")]
  have hbody : Tree.ofJson body = .obj [(some "_scroll_id", .text (some "c1"))] := by
    simp [body, Tree.ofJson]
  have hopened : answer.opened? = some "c1" := by
    rw [Answer.opened?_reply_compact rfl, hbody]
    rfl
  have hpage : answer.page? = none := by
    rw [Answer.page?_reply_compact (by decide) rfl, hbody]
    rfl
  refine ⟨hp, ha, hopened, fun files => ?_⟩
  have hrun : (s.export ⟨1, 0⟩ ⟨[.reply 200 "{}" true, answer], []⟩ files).server.requests =
      [access.infoRequest, access.openingRequest query "a"] := by
    have hc := access.connect_of_isSuccess (by decide : isSuccess 200 = true) "{}" true
      [answer] []
    let server : Server := ⟨[answer], [access.infoRequest]⟩
    obtain ⟨vs, s', hg⟩ := access.service.exists_gathers plan.query plan.query.indices server
    have hs : s' = server.after [access.openingRequest query "a"] :=
      Access.eq_after_of_gathers (s := server) hpage hg
    simp only [Settings.export, hp, ha, Service.connectAndExport, hc]
    rw [List.nil_append, Service.export_eq hg, hs]
    rfl
  obtain ⟨rs, hrs, hs⟩ := Settings.releases_iff_page hp ha ⟨1, 0⟩
    ⟨[.reply 200 "{}" true, answer], []⟩ files
  obtain rfl : [access.infoRequest, access.openingRequest query "a"] = rs := hrun.symm.trans hrs
  have hiff := (hs [(access.infoRequest, .reply 200 "{}" true)] "a" answer [] "c1" rfl hopened).1
  refine ⟨hrun, fun hr => ?_⟩
  rw [hiff, hpage] at hr
  cases hr

end ScrollExport
