import ScrollExport.Url.Host

/-!
# URLs

The parts of a URL, each already in its encoded form, and its text.
-/

namespace ScrollExport

/-- What stands between two slashes and the path. -/
structure Authority where
  username : String
  password : Option String
  host : Host
  /-- Never the port that the scheme implies. -/
  port : Option Nat
deriving DecidableEq, Repr

/-- A path of segments after slashes, or any text. -/
inductive UrlPath where
  | segments (names : List String)
  | opaquePath (text : String)
deriving DecidableEq, Repr

structure Url where
  scheme : String
  authority : Option Authority
  path : UrlPath
  query : Option String
  fragment : Option String
deriving DecidableEq, Repr

namespace Url

/-! ### Writing -/

def UserInfo.chars (username : String) (password : Option String) : List Char :=
  match password with
  | some p => username.toList ++ ':' :: p.toList ++ ['@']
  | none => if username = "" then [] else username.toList ++ ['@']

def portChars : Option Nat → List Char
  | none => []
  | some p => ':' :: Number.natChars p

def authorityChars : Option Authority → List Char
  | none => []
  | some a =>
    ['/', '/'] ++ UserInfo.chars a.username a.password ++ a.host.chars ++ portChars a.port

def pathChars : UrlPath → List Char
  | .segments names => names.flatMap fun name => '/' :: name.toList
  | .opaquePath text => text.toList

def partChars (mark : Char) : Option String → List Char
  | none => []
  | some s => mark :: s.toList

/-- The path and the query, as a request sends them. -/
def targetChars (u : Url) : List Char :=
  pathChars u.path ++ partChars '?' u.query

def toChars (u : Url) : List Char :=
  u.scheme.toList ++ ':' :: authorityChars u.authority ++ u.targetChars ++
    partChars '#' u.fragment

def toText (u : Url) : String :=
  String.ofList u.toChars

/-! ### Credentials -/

def username (u : Url) : String :=
  (u.authority.map (·.username)).getD ""

def password (u : Url) : Option String :=
  u.authority.bind (·.password)

/-- The URL without user name and password. -/
def withoutCredentials (u : Url) : Url :=
  { u with authority := u.authority.map fun a => { a with username := "", password := none } }

/-! ### Segments -/

def isSingleDot (segment : List Char) : Bool :=
  segment.map Char.toLower ∈ [".".toList, "%2e".toList]

def isDoubleDot (segment : List Char) : Bool :=
  segment.map Char.toLower ∈ ["..".toList, ".%2e".toList, "%2e.".toList, "%2e%2e".toList]

/-- Leave out the segments that are dots; two dots take the segment before with them. -/
def resolveDots (before : List (List Char)) : List (List Char) → List (List Char)
  | [] => before.reverse
  | [last] =>
    if isDoubleDot last then ([] :: before.tail).reverse
    else if isSingleDot last then ([] :: before).reverse
    else (last :: before).reverse
  | s :: rest =>
    if isDoubleDot s then resolveDots before.tail rest
    else if isSingleDot s then resolveDots before rest
    else resolveDots (s :: before) rest

def segmentNames (u : Url) : List String :=
  match u.path with
  | .segments names => names
  | .opaquePath _ => []

/-- The URL whose path ends in a slash, so that relative paths start below it. A query and a
fragment stay as they are. -/
def asFolder (u : Url) : Url :=
  match u.path with
  | .segments names =>
    if names.getLast? = some "" then u else { u with path := .segments (names ++ [""]) }
  | .opaquePath _ => u

/-- The URL at a relative path, with a query of its own and no fragment. -/
def join (u : Url) (relative : List (List Char)) (query : Option String) : Url :=
  let before := u.segmentNames.dropLast.map String.toList
  let names := resolveDots before.reverse relative
  { u with path := .segments (names.map String.ofList), query, fragment := none }

end Url

end ScrollExport
