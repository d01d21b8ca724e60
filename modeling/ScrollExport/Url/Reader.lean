import ScrollExport.Url.Basic

/-!
# Reading URLs

An absolute URL is a scheme, a colon, and an authority, a path, a query and a fragment. Special
schemes imply an authority, take a backslash for a slash and know a port. Spaces around the text
and line breaks inside it do not count.
-/

namespace ScrollExport.Url

open Text Number

/-! ### Schemes -/

/-- The port of a special scheme; a file has none. -/
def specialSchemes : List (String × Option Nat) :=
  [("http", some 80), ("https", some 443), ("ws", some 80), ("wss", some 443),
    ("ftp", some 21), ("file", none)]

def isSpecial (scheme : String) : Bool :=
  (specialSchemes.lookup scheme).isSome

def defaultPort (scheme : String) : Option Nat :=
  (specialSchemes.lookup scheme).join

def isSchemeChar (c : Char) : Bool :=
  c.isAlphanum || c = '+' || c = '-' || c = '.'

/-- The scheme and what follows its colon. -/
def scanScheme (cs : List Char) : Option (String × List Char) :=
  let scheme := cs.takeWhile isSchemeChar
  match cs.dropWhile isSchemeChar with
  | ':' :: rest =>
    if (scheme.head?.map Char.isAlpha).getD false then
      some (String.ofList (scheme.map Char.toLower), rest)
    else none
  | _ => none

/-! ### Path, query and fragment -/

def isSlash (special : Bool) (c : Char) : Bool :=
  c = '/' || (special && c = '\\')

def endsPath (c : Char) : Bool :=
  c = '?' || c = '#'

/-- The query and the fragment of the rest of a URL. -/
def scanSuffix (special : Bool) (cs : List Char) : Option String × Option String :=
  let fragment (cs : List Char) : Option String :=
    match cs with
    | '#' :: rest => some (String.ofList (Percent.encode Percent.inFragment rest))
    | _ => none
  match cs with
  | '?' :: rest =>
    let set := if special then Percent.inSpecialQuery else Percent.inQuery
    let query := rest.takeWhile (· ≠ '#')
    (some (String.ofList (Percent.encode set query)), fragment (rest.dropWhile (· ≠ '#')))
  | cs => (none, fragment cs)

/-- The segments of a path whose first slash is gone. -/
def scanSegments (special : Bool) (cs : List Char) : UrlPath :=
  let encoded := (splitChars (isSlash special) cs).map (Percent.encode Percent.inPath)
  .segments ((resolveDots [] encoded).map String.ofList)

/-- The path after an authority. Only a special URL always has one. -/
def scanPath (special : Bool) (cs : List Char) : UrlPath :=
  match cs with
  | [] => if special then .segments [""] else .segments []
  | c :: rest => if isSlash special c then scanSegments special rest else scanSegments special cs

/-- A URL from its scheme, its authority and the text after it. -/
def finish (scheme : String) (authority : Option Authority) (path : List Char → UrlPath)
    (cs : List Char) : Url :=
  let (query, fragment) := scanSuffix (isSpecial scheme) (cs.dropWhile (!endsPath ·))
  { scheme, authority, path := path (cs.takeWhile (!endsPath ·)), query, fragment }

/-! ### Authority -/

/-- The last `@` of an authority splits it; what is before it, and what is after it. -/
def splitUserInfo (cs : List Char) : Option (List Char × List Char) :=
  (splitFirst '@' cs.reverse).map fun (after, before) => (before.reverse, after.reverse)

/-- User name and password, the second one only if it is not empty. -/
def readUserInfo (cs : List Char) : String × Option String :=
  let encode (cs : List Char) : String := String.ofList (Percent.encode Percent.inUserInfo cs)
  match splitFirst ':' cs with
  | none => (encode cs, none)
  | some (name, []) => (encode name, none)
  | some (name, password) => (encode name, some (encode password))

/-- The part of a host and port before the colon that is not between brackets. -/
def splitPort (inside : Bool) : List Char → List Char × Option (List Char)
  | [] => ([], none)
  | c :: cs =>
    if c = ':' && !inside then ([], some cs)
    else
      let inside := if c = '[' then true else if c = ']' then false else inside
      let (host, port) := splitPort inside cs
      (c :: host, port)

/-- A port, unless it is missing or implied. A backslash ends it. -/
def readPort (scheme : String) (cs : List Char) : Except UrlError (Option Nat) :=
  if !cs.all isDigit then .error .port
  else if cs = [] then .ok none
  else
    let port := ofDigits cs
    if 65535 < port then .error .port
    else .ok (if some port = defaultPort scheme then none else some port)

def readHost (scheme : String) (cs : List Char) : Except UrlError Host :=
  if isSpecial scheme then if cs = [] then .error .emptyHost else Host.read cs
  else Host.readOpaque cs

/-- The authority of a URL that is no file; `stopped` if something follows it. -/
def readAuthority (scheme : String) (stopped : Bool) (cs : List Char) :
    Except UrlError Authority := do
  let (userInfo, rest) := match splitUserInfo cs with
    | some (userInfo, rest) => (some userInfo, rest)
    | none => (none, cs)
  if userInfo = some [] && rest = [] && stopped then throw .emptyHost
  let (hostText, portText) := splitPort false rest
  let host ← readHost scheme hostText
  if host = .domain "" && portText.isSome then throw .emptyHost
  let port ← match portText with
    | some cs => readPort scheme cs
    | none => pure none
  let (username, password) := readUserInfo (userInfo.getD [])
  if host = .domain "" && (username ≠ "" || password.isSome) then throw .emptyHost
  pure { username, password, host, port }

/-- Read a URL from its authority on. -/
def afterSlashes (scheme : String) (cs : List Char) : Except UrlError Url := do
  let special := isSpecial scheme
  let stops (c : Char) : Bool := isSlash special c || endsPath c
  let rest := cs.dropWhile (!stops ·)
  let authority ← readAuthority scheme (rest ≠ []) (cs.takeWhile (!stops ·))
  pure (finish scheme (some authority) (scanPath special) rest)

/-! ### Files -/

/-- A letter and a colon or a bar: a drive, which is no host. -/
def isDrive : List Char → Bool
  | [letter, mark] => letter.isAlpha && (mark = ':' || mark = '|')
  | _ => false

/-- Read the URL of a file, whose host may be missing. -/
def fileUrl (cs : List Char) : Except UrlError Url := do
  let file (host : Host) (cs : List Char) : Url :=
    finish "file" (some ⟨"", none, host, none⟩) (scanPath true) cs
  match cs with
  | a :: b :: rest =>
    if isSlash true a && isSlash true b then
      let stops (c : Char) : Bool := isSlash true c || endsPath c
      let hostText := rest.takeWhile (!stops ·)
      if hostText = [] || isDrive hostText then pure (file (.domain "") rest)
      else
        let host ← Host.read hostText
        let host := if host = .domain "localhost" then .domain "" else host
        pure (file host (rest.dropWhile (!stops ·)))
    else pure (file (.domain "") cs)
  | _ => pure (file (.domain "") cs)

/-! ### All URLs -/

def isTrimmed (c : Char) : Bool :=
  c.toNat ≤ 0x20

def isLineBreak (c : Char) : Bool :=
  c = '\t' || c = '\n' || c = '\r'

/-- The characters of a URL that count. -/
def significant (cs : List Char) : List Char :=
  let trimmed := ((cs.dropWhile isTrimmed).reverse.dropWhile isTrimmed).reverse
  trimmed.filter (!isLineBreak ·)

def opaqueOrRooted (cs : List Char) : UrlPath :=
  match cs with
  | '/' :: rest => scanSegments false rest
  | cs => .opaquePath (String.ofList (Percent.encode Percent.inControls cs))

def readChars (cs : List Char) : Except UrlError Url :=
  match scanScheme (significant cs) with
  | none => .error .relative
  | some (scheme, rest) =>
    if scheme = "file" then fileUrl rest
    else if isSpecial scheme then afterSlashes scheme (rest.dropWhile (isSlash true))
    else
      match rest with
      | '/' :: '/' :: rest => afterSlashes scheme rest
      | rest => .ok (finish scheme none opaqueOrRooted rest)

def read (s : String) : Except UrlError Url :=
  readChars s.toList

end ScrollExport.Url
