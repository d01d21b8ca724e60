import ScrollExport.Json.Printer
import ScrollExport.Search.Endpoint

/-!
# Exchanges

Requests to a server and its answers. The server answers from a list, one answer for each request,
and keeps all requests; when the list is used up, it answers with a failure.

The way to the server is part of its answers, since no URL tells whether there is one: where a name
cannot be resolved, nothing listens, a handshake fails or a client cannot speak the scheme, the
request is made all the same, and what comes back is silence.

Three things that a client may do are left out. An answer has no headers, so no redirect is followed
from it. Of the mapping of IDNA the names of hosts have the part that `Host.domain?` says. And an
endpoint is taken for a folder by a slash after its path, whatever query or fragment follows there.
-/

namespace ScrollExport.Search

structure Request where
  method : String
  /-- Path and query. -/
  target : String
  authorization : Option String
  body : String
deriving DecidableEq, Repr

/-- What comes back for a request. -/
inductive Answer where
  /-- The connection ends without a word, or there is none. -/
  | silence
  /-- A status and a body, of which all or only a part arrives. -/
  | reply (status : Nat) (body : String) (complete : Bool)
deriving DecidableEq, Repr

structure Server where
  answers : List Answer
  /-- All that were made, in order. -/
  requests : List Request
deriving DecidableEq, Repr

namespace Answer

def exhausted : Answer :=
  .reply 500 "no response left" true

/-- Statuses have three digits, and those below 200 only announce an answer; 101 alone ends an
exchange all the same. -/
def isFinal (status : Nat) : Bool :=
  status = 101 || (200 ≤ status && status < 1000)

/-- What a client sees of an answer: nothing comes after an announcement. -/
def seen : Answer → Answer
  | .silence => .silence
  | .reply status body complete =>
    if isFinal status then .reply status body complete else .silence

end Answer

def isSuccess (status : Nat) : Bool :=
  200 ≤ status && status < 300

/-- Statuses whose answers have no body. -/
def hasNoBody (status : Nat) : Bool :=
  status = 101 || status = 204 || status = 304

/-- The body that a client sees, unless it is cut. -/
def visibleBody? (status : Nat) (body : String) (complete : Bool) : Option String :=
  if hasNoBody status then some "" else if complete then some body else none

/-- A text without a byte order mark before it. -/
def withoutMark (s : String) : String :=
  match s.toList with
  | '\uFEFF' :: cs => String.ofList cs
  | _ => s

namespace Server

/-- Hand a request over and take the next answer. -/
def exchange (r : Request) (s : Server) : Answer × Server :=
  match s.answers with
  | [] => (.exhausted, { s with requests := s.requests ++ [r] })
  | a :: rest => (a.seen, ⟨rest, s.requests ++ [r]⟩)

end Server

/-! ### Requests of an access -/

namespace Access

/-- The URL below which all requests go. -/
def base (a : Access) : Url :=
  a.url.asFolder

/-- The credentials of a request: those of the endpoint, or else those left in its URL. -/
def authorization (a : Access) : Option String :=
  match a.credentials with
  | some c => some c.header
  | none =>
    let decoded (s : String) : String :=
      (String.fromUTF8? ⟨(Percent.decode s.toList).toArray⟩).getD ""
    (a.url.password).map fun password =>
      (Credentials.mk (decoded a.url.username) (decoded password)).header

/-- The request for the root of the endpoint. Its query stays, unless it is empty. -/
def infoRequest (a : Access) : Request :=
  let u := a.base
  let u := if u.query = some "" then { u with query := none } else u
  ⟨"GET", String.ofList u.targetChars, a.authorization, ""⟩

/-- A request at a path below the endpoint. -/
def request (a : Access) (method : String) (path : List (List Char)) (query : Option String)
    (body : Json) : Request :=
  ⟨method, String.ofList (a.base.join path query).targetChars, a.authorization, body.compact⟩

end Access

end ScrollExport.Search
