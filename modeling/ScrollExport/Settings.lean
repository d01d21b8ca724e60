import ScrollExport.Config.Decode
import ScrollExport.Config.Layers
import ScrollExport.Export
import ScrollExport.Search.Endpoint

/-!
# Settings

Everything that the program can be told: where logs go, where the service is, what to search, which
files to write and what to do when a search fails. Settings are decoded from a configuration; the
query, the targets and the delimiter are checked only when they are asked for.
-/

namespace ScrollExport

open Config (Value Decoded SettingError)

/-- The query as it is written, before any check. -/
structure QuerySettings where
  indices : List String
  pageSize : Nat
  scroll : String
  field : String
  format : String
  gte : Option String
  lte : Option String
deriving DecidableEq, Repr

structure OutputSettings where
  json : String
  csv : String
  html : String
  delimiter : String
deriving DecidableEq, Repr

structure Settings where
  mode : Option String
  /-- The file or folder for logs. -/
  logPath : Option String
  endpoint : Search.Endpoint
  query : QuerySettings
  output : OutputSettings
  onSearchError : FailurePolicy
deriving DecidableEq, Repr

namespace Settings

/-! ### Indices -/

/-- The names between commas, trimmed, without the blank ones. -/
def splitIndices (s : String) : List String :=
  ((Text.split ',' s).map Text.trim).filter (· ≠ "")

/-- The items of a list of texts. -/
def texts? : List Value → Option (List String)
  | [] => some []
  | .scalar _ (.str s) :: rest => (texts? rest).map (s :: ·)
  | _ :: _ => none

/-- A list of names, or names in one text. -/
def indexNames? : Value → Option (List String)
  | .arr _ vs => texts? vs
  | .scalar _ (.str s) => some (splitIndices s)
  | _ => none

def decodeIndices (v : Value) : Decoded (List String) :=
  match indexNames? v with
  | none =>
    .error (.malformed (.refused "data did not match any variant of untagged enum Indices"))
  | some [] => .error (.malformed (.refused "at least one index is required"))
  | some names => .ok names

/-! ### Failure policy -/

def policyName : FailurePolicy → String
  | .discard => "discard"
  | .keep => "export"

def policyNamed (name : String) : Decoded FailurePolicy :=
  if name = policyName .discard then .ok .discard
  else if name = policyName .keep then .ok .keep
  else
    .error (.malformed (.refused
      ("enum SearchFailurePolicy does not have variant constructor " ++ name)))

/-- A name, or a table whose only key is one. -/
def decodePolicy : Value → Decoded FailurePolicy
  | .scalar _ (.str name) => policyNamed name
  | .table _ [(name, _)] => policyNamed name
  | _ =>
    .error (.malformed (.refused ("value of enum SearchFailurePolicy should be represented by " ++
      "either string or table with exactly one key")))

/-! ### Parts -/

def loggingPart : Value.PartName :=
  ⟨"struct Logging", ["path"]⟩

def endpointPart : Value.PartName :=
  ⟨Search.Endpoint.calledInMessages, ["url", "timeout", "username", "password"]⟩

def queryPart : Value.PartName :=
  ⟨"struct Query", ["indices", "page_size", "scroll", "field", "format", "gte", "lte"]⟩

def outputPart : Value.PartName :=
  ⟨"struct Output", ["json", "csv", "html", "delimiter"]⟩

def settingsPart : Value.PartName :=
  ⟨"struct Settings",
    ["mode", "logging", "elasticsearch", "query", "output", "on_search_error"]⟩

def decodeLogging (v : Value) : Decoded (Option String) := do
  v.part loggingPart
  pure (← v.field? loggingPart "path" Value.asOptionText).join

def decodeUrl (v : Value) : Decoded Url := do
  let s ← v.asText
  match Url.read s with
  | .ok u => pure u
  | .error e => throw (.malformed (.refused (e.message ++ ": " ++ Text.quoted s)))

def decodeEndpoint (v : Value) : Decoded Search.Endpoint := do
  let p := endpointPart
  v.part p
  let url ← v.field? p "url" decodeUrl
  let timeout ← v.field? p "timeout" Value.asCount
  let username ← v.field? p "username" Value.asOptionText
  let password ← v.field? p "password" Value.asOptionText
  pure
    { url := ← v.required p "url" url
      timeout := ← v.required p "timeout" timeout
      username := username.join
      password := password.join }

def decodeQuery (v : Value) : Decoded QuerySettings := do
  let p := queryPart
  v.part p
  let indices ← v.field? p "indices" decodeIndices
  let pageSize ← v.field? p "page_size" Value.asCount
  let scroll ← v.field? p "scroll" Value.asText
  let field ← v.field? p "field" Value.asText
  let format ← v.field? p "format" Value.asText
  let gte ← v.field? p "gte" Value.asOptionText
  let lte ← v.field? p "lte" Value.asOptionText
  pure
    { indices := ← v.required p "indices" indices
      pageSize := ← v.required p "page_size" pageSize
      scroll := ← v.required p "scroll" scroll
      field := ← v.required p "field" field
      format := ← v.required p "format" format
      gte := gte.join
      lte := lte.join }

def decodeOutput (v : Value) : Decoded OutputSettings := do
  let p := outputPart
  v.part p
  let json ← v.field? p "json" Value.asText
  let csv ← v.field? p "csv" Value.asText
  let html ← v.field? p "html" Value.asText
  let delimiter ← v.field? p "delimiter" Value.asText
  pure
    { json := ← v.required p "json" json
      csv := ← v.required p "csv" csv
      html := ← v.required p "html" html
      delimiter := ← v.required p "delimiter" delimiter }

/-- The settings that a configuration describes. -/
def decode (v : Value) : Decoded Settings := do
  let p := settingsPart
  let mode ← v.field? p "mode" Value.asOptionText
  let logging ← v.field? p "logging" decodeLogging
  let endpoint ← v.field? p "elasticsearch" decodeEndpoint
  let query ← v.field? p "query" decodeQuery
  let output ← v.field? p "output" decodeOutput
  let policy ← v.field? p "on_search_error" decodePolicy
  pure
    { mode := mode.join
      logPath := logging.join
      endpoint := ← v.required p "elasticsearch" endpoint
      query := ← v.required p "query" query
      output := ← v.required p "output" output
      onSearchError := policy.getD .discard }

/-! ### Errors -/

/-- Why there are no settings, or why they cannot be used. -/
inductive Error where
  | source (e : Config.LayerError)
  | decoding (e : SettingError)
  | delimiter (text : String)
  | query (e : QueryError)
deriving DecidableEq, Repr

def Error.message : Error → String
  | .source e => "Config Source Error: " ++ e.message
  | .decoding e =>
    "Config Merge Error: Cannot convert configuration into esexport settings [" ++
      e.message ++ "]"
  | .delimiter text =>
    "Invalid Configuration: CSV delimiter must be a single ASCII character, got '" ++ text ++ "'"
  | .query e => "Invalid Query Configuration: " ++ e.message

/-! ### Resolution -/

/-- The folders of the program below the configuration folder. -/
def subfolders : List String :=
  ["esexport", "elasticsearch"]

/-- The start of the variables of the program. -/
def namePrefix : String := "ESEXPORT"

/-- What the caller gives to find the settings. -/
structure Request where
  folder : String
  runMode : Option String
  overrides : List String
deriving DecidableEq, Repr

def Request.sources (r : Request) : Config.Sources where
  folder := r.folder
  subfolders := subfolders
  runMode := r.runMode
  namePrefix := namePrefix
  overrides := r.overrides

/-- The configuration of a request; it is itself the only layer of what is decoded. -/
def Request.configuration (r : Request) (env : Config.Environment) (files : FileTree)
    (formats : Config.Formats) : Except Config.LayerError Value :=
  (r.sources.resolve env files formats).map fun v => Config.ofLayers [v.entries]

def resolve (r : Request) (env : Config.Environment) (files : FileTree)
    (formats : Config.Formats := .basic) : Except Error Settings :=
  match r.configuration env files formats with
  | .error e => .error (.source e)
  | .ok v => (decode v).mapError .decoding

/-! ### JSON -/

/-- The settings without the password. -/
def toJson (s : Settings) : Json :=
  .obj
    [("mode", .optionStr s.mode),
      ("logging", .obj [("path", .optionStr s.logPath)]),
      ("elasticsearch", s.endpoint.toJson),
      ("query", .obj
        [("indices", .arr (s.query.indices.map .str)),
          ("page_size", .nat s.query.pageSize),
          ("scroll", .str s.query.scroll),
          ("field", .str s.query.field),
          ("format", .str s.query.format),
          ("gte", .optionStr s.query.gte),
          ("lte", .optionStr s.query.lte)]),
      ("output", .obj
        [("json", .str s.output.json),
          ("csv", .str s.output.csv),
          ("html", .str s.output.html),
          ("delimiter", .str s.output.delimiter)]),
      ("on_search_error", .str (policyName s.onSearchError))]

def printed (s : Settings) : String :=
  s.toJson.pretty

/-! ### Export plans -/

def toQuery (s : Settings) : Except Error Query :=
  (Query.make s.query.indices s.query.pageSize s.query.scroll
    ⟨s.query.field, s.query.format, s.query.gte, s.query.lte⟩).mapError .query

/-- The delimiter is a single ASCII character. -/
def delimiter (s : Settings) : Except Error UInt8 :=
  match s.output.delimiter.toList with
  | [c] => if c.toNat < 0x80 then .ok (Text.byteOf c) else .error (.delimiter s.output.delimiter)
  | _ => .error (.delimiter s.output.delimiter)

def outputPaths (s : Settings) : OutputPaths :=
  ⟨s.output.json, s.output.csv, s.output.html⟩

/-- What the settings ask for. -/
def plan (s : Settings) : Except Error ExportPlan := do
  let query ← s.toQuery
  let delimiter ← s.delimiter
  pure ⟨query, s.outputPaths.targets delimiter, s.onSearchError⟩

theorem delimiter_eq_ok_iff {s : Settings} {delimiter : UInt8} :
    s.delimiter = .ok delimiter ↔
      ∃ c, s.output.delimiter.toList = [c] ∧ c.toNat < 0x80 ∧ Text.byteOf c = delimiter := by
  unfold Settings.delimiter
  split
  · rename_i c hc
    by_cases hl : c.toNat < 0x80 <;> simp [hl, hc]
  · rename_i hc
    simp only [reduceCtorEq, false_iff, not_exists, not_and]
    intro c h
    exact absurd h (hc c)

theorem plan_eq_ok_iff {s : Settings} {plan : ExportPlan} :
    s.plan = .ok plan ↔
      ∃ query delimiter, s.toQuery = .ok query ∧ s.delimiter = .ok delimiter ∧
        ⟨query, s.outputPaths.targets delimiter, s.onSearchError⟩ = plan := by
  cases hq : s.toQuery <;> cases hd : s.delimiter <;>
    simp [Settings.plan, hq, hd, bind, Except.bind, pure, Except.pure]

end Settings

end ScrollExport
