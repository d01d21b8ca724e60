import ScrollExport.Export
import ScrollExport.Search.Body
import ScrollExport.Search.Exchange
import ScrollExport.Search.Response

/-!
# Search sessions

A session with a search server: one request tells whether it is there, then a scroll is opened with
a search, continued and released by requests of their own. Together they are a service whose state
is the server.
-/

namespace ScrollExport.Search

open Number

/-! ### Failures -/

/-- Why a session cannot start. -/
inductive Refusal where
  | unreachable (url : String)
  | status (code : Nat)
  | credentials (url : String) (code : Nat)
deriving DecidableEq, Repr

/-- The statuses that refuse the credentials, and their names. -/
def rejectionName? : Nat → Option String
  | 401 => some "Unauthorized"
  | 403 => some "Forbidden"
  | _ => none

def Refusal.toConnectionError : Refusal → ConnectionError
  | .unreachable url =>
    .connection ("Elasticsearch Unreachable at " ++ url ++ ": no answer")
  | .status code =>
    .connection ("Elasticsearch Info Request Failed with status " ++ natText code)
  | .credentials url code =>
    .authentication ("credentials rejected by " ++ url ++ " (" ++ natText code ++ " " ++
      (rejectionName? code).getD "" ++ ")")

/-- Why a request of a session failed; `details` says what was asked. -/
inductive Fault where
  | noAnswer (details : String)
  | status (details : String) (code : Nat) (body : Option String)
  | undecodable (details : String)
  | noScrollId (details : String)
deriving DecidableEq, Repr

namespace Fault

/-- What is shown of a body that did not arrive in full. -/
def cutBody : String := "<unreadable body: it ended early>"

def message : Fault → String
  | .noAnswer details => "Elasticsearch Error: no answer [" ++ details ++ "]"
  | .status details code body =>
    "Elasticsearch Response: " ++ details ++ " " ++ natText code ++ ": " ++ body.getD cutBody
  | .undecodable details =>
    "JSON Elasticsearch Deserialization Error: not a search response [" ++ details ++ "]"
  | .noScrollId details => "Elasticsearch Response Missing Scroll Id: " ++ details

end Fault

/-! ### Answers -/

/-- The page that an answer carries. -/
def pageOf (details : String) (status : Nat) (body : Option String) : Except Fault Page :=
  if !isSuccess status then .error (.status details status (body.map withoutMark))
  else
    match body.bind Response.read? with
    | none => .error (.undecodable details)
    | some r =>
      match r.page? with
      | none => .error (.noScrollId details)
      | some p => .ok p

/-- Read an answer to a request for a page. -/
def readPage (asked details : String) : Answer → Except Fault Page
  | .silence => .error (.noAnswer asked)
  | .reply status body complete => pageOf details status (visibleBody? status body complete)

/-- Read an answer to a release. A scroll that is gone is released. -/
def readRelease : Answer → Except Fault Unit
  | .silence => .error (.noAnswer "cannot clear scroll")
  | .reply status body complete =>
    if isSuccess status || status = 404 then .ok ()
    else
      .error (.status "clear scroll" status
        ((visibleBody? status body complete).map withoutMark))

/-! ### Requests -/

/-- The name of an index in a path. -/
def indexSegment (index : String) : List Char :=
  Percent.encode Percent.inName index.toList

/-- The path of a search; an empty name leaves no segment. -/
def searchPath (index : String) : List (List Char) :=
  (if index = "" then [] else [indexSegment index]) ++ ["_search".toList]

def scrollPath : List (List Char) :=
  ["_search".toList, "scroll".toList]

namespace Access

def openingRequest (a : Access) (q : Query) (index : String) : Request :=
  a.request "POST" (searchPath index) (some ("scroll=" ++ q.keepAlive)) (openingBody q)

def continuationRequest (a : Access) (cursor : Cursor) (keepAlive : String) : Request :=
  a.request "POST" scrollPath none
    (.obj [("scroll", .str keepAlive), ("scroll_id", .str cursor)])

def releaseRequest (a : Access) (cursor : Cursor) : Request :=
  a.request "DELETE" scrollPath none (.obj [("scroll_id", .arr [.str cursor])])

/-- Ask whether the server is there. -/
def start (a : Access) (s : Server) : Except Refusal Unit × Server :=
  match s.exchange a.infoRequest with
  | (.silence, s) => (.error (.unreachable a.url.toText), s)
  | (.reply status _ _, s) =>
    if (rejectionName? status).isSome then (.error (.credentials a.url.toText status), s)
    else if isSuccess status then (.ok (), s)
    else (.error (.status status), s)

/-- Ask whether the server is there, as an export does. -/
def connect (a : Access) (s : Server) : Except ConnectionError Unit × Server :=
  ((a.start s).1.mapError Refusal.toConnectionError, (a.start s).2)

/-- What the log tells while a session starts. -/
def startLog (a : Access) (s : Server) : List String :=
  ("Trying to connect to elasticsearch at " ++ a.url.toText) ::
    match (a.start s).1 with
    | .ok () => ["connected to elasticsearch at " ++ a.url.toText]
    | .error _ => []

def openScroll (a : Access) (q : Query) (index : String) (s : Server) :
    Except Fault Page × Server :=
  let (answer, s) := s.exchange (a.openingRequest q index)
  (readPage ("cannot search index " ++ index) ("search on " ++ index) answer, s)

def nextPage (a : Access) (cursor : Cursor) (keepAlive : String) (s : Server) :
    Except Fault Page × Server :=
  let (answer, s) := s.exchange (a.continuationRequest cursor keepAlive)
  (readPage "cannot continue scroll" "scroll" answer, s)

def release (a : Access) (cursor : Cursor) (s : Server) : Except Fault Unit × Server :=
  let (answer, s) := s.exchange (a.releaseRequest cursor)
  (readRelease answer, s)

theorem answers_length_nextPage_lt {a : Access} {cursor : Cursor} {keepAlive : String}
    {s s' : Server} {page : Page} (h : a.nextPage cursor keepAlive s = (.ok page, s')) :
    s'.answers.length < s.answers.length := by
  obtain ⟨answers, requests⟩ := s
  cases answers with
  | nil =>
    simp [nextPage, Server.exchange, Answer.exhausted, readPage, pageOf, isSuccess] at h
  | cons answer rest =>
    simp only [nextPage, Server.exchange, Prod.mk.injEq] at h
    obtain ⟨-, rfl⟩ := h
    simp

/-- The service behind an endpoint. -/
def service (a : Access) : Service Server Fault where
  openScroll := a.openScroll
  nextPage := a.nextPage
  release := a.release
  budget s := s.answers.length
  budget_lt h _ := answers_length_nextPage_lt h

end Access

end ScrollExport.Search
