import ScrollExport.DecodeError
import ScrollExport.Text.Base64
import ScrollExport.Url.Reader

/-!
# Endpoints

Where the search service is, how long to wait for it, and who asks. A user name in the URL counts
as credentials, but the URL that is kept has none; a user name of its own goes before it.
-/

namespace ScrollExport.Search

structure Endpoint where
  url : Url
  /-- In milliseconds. -/
  timeout : Nat
  username : Option String
  password : Option String
deriving DecidableEq, Repr

structure Credentials where
  username : String
  password : String
deriving DecidableEq, Repr

namespace Credentials

/-- The header that carries the credentials. -/
def header (c : Credentials) : String :=
  String.ofList
    ("Basic ".toList ++ Text.base64 (Text.utf8 (c.username.toList ++ ':' :: c.password.toList)))

end Credentials

namespace Endpoint

/-- A service on the same machine. -/
def standard : Endpoint where
  url :=
    { scheme := "http"
      authority := some ⟨"", none, .domain "localhost", some 9200⟩
      path := .segments [""]
      query := none
      fragment := none }
  timeout := 10000
  username := none
  password := none

/-! ### JSON -/

/-- The password is never written. -/
def toJson (e : Endpoint) : Json :=
  .obj
    [("url", .str e.url.toText), ("timeout", .nat e.timeout),
      ("username", .optionStr e.username)]

/-- What a message calls an endpoint. -/
def calledInMessages : String := "struct ElasticsearchStorageConfig"

def urlField : Json → Except DecodeError Url
  | .str s =>
    match Url.read s with
    | .ok u => .ok u
    | .error e => .error (.refused (e.message ++ ": " ++ Text.quoted s))
  | v => .error (.wrongType v.described "a string representing an URL")

def timeoutField : Json → Except DecodeError Nat
  | .int i => if i < 0 then .error (.wrongValue (Json.int i).described "u64") else .ok i.toNat
  | v => .error (.wrongType v.described "u64")

def textField : Json → Except DecodeError (Option String)
  | .null => .ok none
  | .str s => .ok (some s)
  | v => .error (.wrongType v.described "a string")

/-- The fields that were read so far. -/
structure Fields where
  url : Option Url
  timeout : Option Nat
  username : Option String
  password : Option String

/-- Read one member; those with other names are passed over. -/
def Fields.read (f : Fields) (member : String × Json) : Except DecodeError Fields :=
  match member.1 with
  | "url" => (urlField member.2).map fun u => { f with url := some u }
  | "timeout" => (timeoutField member.2).map fun n => { f with timeout := some n }
  | "username" => (textField member.2).map fun s => { f with username := s }
  | "password" => (textField member.2).map fun s => { f with password := s }
  | _ => .ok f

def Fields.complete (f : Fields) : Except DecodeError Endpoint :=
  match f.url, f.timeout with
  | none, _ => .error (.missingField "url")
  | _, none => .error (.missingField "timeout")
  | some url, some timeout => .ok ⟨url, timeout, f.username, f.password⟩

/-- Read an endpoint from its members, or from its parts in order. -/
def ofJson : Json → Except DecodeError Endpoint
  | .obj members => do
    let fields ← members.foldlM Fields.read ⟨none, none, none, none⟩
    fields.complete
  | .arr items => do
    let expected := calledInMessages ++ " with 4 elements"
    match items with
    | [] => throw (.wrongLength 0 expected)
    | url :: rest =>
      let url ← urlField url
      match rest with
      | [] => throw (.wrongLength 1 expected)
      | timeout :: rest =>
        let timeout ← timeoutField timeout
        let username ← match rest with
          | v :: _ => textField v
          | [] => pure none
        let password ← match rest.drop 1 with
          | v :: _ => textField v
          | [] => pure none
        if 4 < items.length then throw (.wrongLength items.length "fewer elements in array")
        pure ⟨url, timeout, username, password⟩
  | v => .error (.wrongType v.described calledInMessages)

end Endpoint

/-! ### Access -/

/-- A URL from which the credentials cannot be taken. -/
structure EndpointError where
  host : String
deriving DecidableEq, Repr

def EndpointError.message (e : EndpointError) : String :=
  "Invalid URL: cannot remove credentials from " ++ e.host

/-- The URL without credentials, and the credentials for every request. -/
structure Access where
  url : Url
  credentials : Option Credentials
deriving DecidableEq, Repr

/-- Whether a URL can hold a user name. -/
def canHoldUser (u : Url) : Bool :=
  u.scheme ≠ "file" && (u.authority.any fun a => a.host ≠ .domain "")

/-- The user name of a URL with its password, and the URL without them. -/
def splitCredentials (u : Url) : Except EndpointError (Url × Option Credentials) :=
  if u.username = "" then .ok (u, none)
  else if canHoldUser u then
    .ok (u.withoutCredentials, some ⟨u.username, u.password.getD ""⟩)
  else .error ⟨String.ofList ((u.authority.map (·.host.chars)).getD [])⟩

/-- How to reach an endpoint. A password without a user name is not used. -/
def Endpoint.access (e : Endpoint) : Except EndpointError Access :=
  (splitCredentials e.url).map fun (url, embedded) =>
    match e.username with
    | some username => ⟨url, some ⟨username, e.password.getD ""⟩⟩
    | none => ⟨url, embedded⟩

end ScrollExport.Search
