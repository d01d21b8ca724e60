import ScrollExport.Calendar.Instant

/-!
# Queries

What to export: the indices in order, how many records a page holds, how long the service keeps a
scroll alive between two requests, and a range on a timestamp field. A query exists only if its
parts are sound.
-/

namespace ScrollExport

open Number Text

/-- An inclusive range on a field whose values are written in some date format. -/
structure TimeRange where
  field : String
  format : String
  gte : Option String
  lte : Option String
deriving DecidableEq, Repr

def TimeRange.defaultField : String := "@timestamp"

def TimeRange.defaultFormat : String := "strict_date_optional_time"

structure Query where
  indices : List String
  pageSize : Nat
  keepAlive : String
  range : TimeRange
  indices_ne_nil : indices ≠ []
  indices_named : ∀ index ∈ indices, isBlankText index = false
  pageSize_pos : 0 < pageSize

/-! ### Refusals -/

/-- Why a query is refused. -/
inductive QueryError where
  | noIndex
  | blankIndex (name : String)
  | emptyPage
  | keepAlive (text : String)
  | emptyField
  | emptyBound
  | notEpoch (bound : String)
  | notInstant (bound : String)
  | inverted (gte lte : String)
deriving DecidableEq, Repr

namespace QueryError

/-- The reason, without saying that it is about a query. -/
def details : QueryError → String
  | .noIndex => "no index to export"
  | .blankIndex name => "invalid index name '" ++ name ++ "'"
  | .emptyPage => "page size must be at least 1"
  | .keepAlive text => "invalid scroll keep alive '" ++ text ++ "'"
  | .emptyField => "empty timestamp field"
  | .emptyBound => "empty range bound"
  | .notEpoch bound => "'" ++ bound ++ "' is not an epoch timestamp"
  | .notInstant bound => "'" ++ bound ++ "' is not a strict ISO 8601 date time"
  | .inverted gte lte => "lower bound " ++ gte ++ " is after upper bound " ++ lte

/-- The text of a refusal with the given reason. -/
def describe (details : String) : String :=
  "Invalid Query: " ++ details

def message (e : QueryError) : String :=
  describe e.details

end QueryError

namespace Query

/-! ### Keep-alive times -/

def timeUnits : List String :=
  ["d", "h", "m", "s", "ms", "micros", "nanos"]

/-- A number without leading zero, then a time unit. -/
def isKeepAlive (s : String) : Bool :=
  let cs := s.toList
  let ds := cs.takeWhile isDigit
  ds ≠ [] && ds.head? ≠ some '0' && timeUnits.contains (String.ofList (cs.dropWhile isDigit))

/-! ### Range bounds -/

/-- The date formats whose bounds are read as instants. -/
def isoFormats : List String :=
  ["strict_date_optional_time", "strict_date_optional_time_nanos", "date_optional_time",
    "strict_date_time", "date_time", "strict_date", "date"]

/-- A signed word of time units, in milliseconds if that is a word too. -/
def epochBound? (bound : String) (millisPerUnit : Int) : Option Int :=
  (signed? bound.toList).bind fun n =>
    let millis := n * millisPerUnit
    if fitsSigned millis then some millis else none

/-- A bound in milliseconds since the start of 1970, if the format says how to read it. -/
def readBound (format bound : String) : Except QueryError (Option Int) :=
  if isBlankText bound then .error .emptyBound
  else if format = "epoch_millis" then
    match epochBound? bound 1 with
    | some millis => .ok (some millis)
    | none => .error (.notEpoch bound)
  else if format = "epoch_second" then
    match epochBound? bound 1000 with
    | some millis => .ok (some millis)
    | none => .error (.notEpoch bound)
  else if format ∈ isoFormats then
    match Instant.read? bound with
    | some instant => .ok (some instant.milliseconds)
    | none => .error (.notInstant bound)
  else .ok none

/-- A missing bound is never refused. -/
def readBound? (format : String) : Option String → Except QueryError (Option Int)
  | none => .ok none
  | some bound => readBound format bound

/-- Refuse a range whose bounds are wrong, or in the wrong order. -/
def checkRange (range : TimeRange) : Except QueryError Unit := do
  let gte ← readBound? range.format range.gte
  let lte ← readBound? range.format range.lte
  match gte, lte with
  | some low, some high =>
    if high < low then throw (.inverted (range.gte.getD "") (range.lte.getD "")) else pure ()
  | _, _ => pure ()

/-! ### Construction -/

/-- The query with these parts, or the first reason against it. -/
def make (indices : List String) (pageSize : Nat) (keepAlive : String) (range : TimeRange) :
    Except QueryError Query :=
  if hne : indices = [] then .error .noIndex
  else
    match hblank : indices.find? isBlankText with
    | some index => .error (.blankIndex index)
    | none =>
      if hsize : pageSize = 0 then .error .emptyPage
      else if !isKeepAlive keepAlive then .error (.keepAlive keepAlive)
      else if range.field = "" then .error .emptyField
      else
        (checkRange range).map fun _ =>
          { indices, pageSize, keepAlive, range
            indices_ne_nil := hne
            indices_named := by simpa [List.find?_eq_none] using hblank
            pageSize_pos := Nat.pos_of_ne_zero hsize }

end Query

end ScrollExport
