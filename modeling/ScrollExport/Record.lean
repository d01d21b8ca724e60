import ScrollExport.Json.Basic

/-!
# Records and pages

A record is a document: an identifier and named fields, no name twice. The search service hands
records out in pages, each with the cursor that leads to the next one.
-/

namespace ScrollExport

structure Record where
  id : String
  fields : List (String × Json)
  distinct : (fields.map Prod.fst).Nodup

namespace Record

/-- The field that holds a source which is not an object. -/
def sourceField : String := "_source"

/-- The record of a source: the members of an object are its fields, a null source has none, and
any other value is the single field `_source`. -/
def ofSource (id : String) : Json → Record
  | .obj members => ⟨id, Keyed.ofList members, Keyed.nodup_ofList members⟩
  | .null => ⟨id, [], List.nodup_nil⟩
  | source => ⟨id, [(sourceField, source)], by simp⟩

/-- The names of the fields, in order. -/
def keys (r : Record) : List String :=
  r.fields.map Prod.fst

def field? (r : Record) (name : String) : Option Json :=
  Keyed.get? r.fields name

end Record

/-- The token that leads from one page of a scroll to the next. -/
abbrev Cursor := String

structure Page where
  cursor : Cursor
  /-- How many records the query matches, if the service tells. -/
  total : Option Nat
  records : List Record

def Page.isEmpty (p : Page) : Bool :=
  p.records.isEmpty

end ScrollExport
