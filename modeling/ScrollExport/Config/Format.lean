import ScrollExport.Config.Value
import ScrollExport.Json.Reader
import ScrollExport.Toml.Document

/-!
# Formats of configuration files

A configuration file is in one of six formats, and its extension tells which. The readers of TOML
and JSON are given here. Of the other formats only the extensions are: their readers are parameters,
and so is the order in which the formats are tried.
-/

namespace ScrollExport.Config

inductive FileFormat where
  | toml | json | yaml | ini | ron | json5
deriving DecidableEq, Repr

namespace FileFormat

def all : List FileFormat :=
  [.toml, .json, .yaml, .ini, .ron, .json5]

theorem mem_all (format : FileFormat) : format ∈ all := by
  cases format <;> decide

/-- What the names of the files in a format end in. -/
def extensions : FileFormat → List String
  | .toml => [".toml"]
  | .json => [".json"]
  | .yaml => [".yaml", ".yml"]
  | .ini => [".ini"]
  | .ron => [".ron"]
  | .json5 => [".json5"]

end FileFormat

/-! ### Readers -/

/-- A reader gives the entries of a text, if it is in the format. It gets the name of the source
first, which all values keep. -/
abbrev Reader := String → String → Option Entries

mutual

def ofToml (origin : String) : Toml.Value → Value
  | .bool b => .scalar (some origin) (.bool b)
  | .int i => .scalar (some origin) (.int i)
  | .float x => .scalar (some origin) (.float x)
  | .str s => .scalar (some origin) (.str s)
  | .arr items => .arr (some origin) (ofTomlItems origin items)
  | .table entries => .table (some origin) (ofTomlEntries origin entries)

def ofTomlItems (origin : String) : List Toml.Value → List Value
  | [] => []
  | v :: vs => ofToml origin v :: ofTomlItems origin vs

def ofTomlEntries (origin : String) : List (String × Toml.Value) → Entries
  | [] => []
  | (key, v) :: rest => Entries.put (ofTomlEntries origin rest) key (ofToml origin v)

end

mutual

def ofJson (origin : String) : Json → Value
  | .null => .scalar (some origin) .nil
  | .bool b => .scalar (some origin) (.bool b)
  | .int i =>
    if Number.fitsSigned i then .scalar (some origin) (.int i)
    else .scalar (some origin) (.float (Binary64.ofInt i))
  | .float x => .scalar (some origin) (.float x)
  | .str s => .scalar (some origin) (.str s)
  | .arr items => .arr (some origin) (ofJsonItems origin items)
  | .obj members => .table (some origin) (ofJsonMembers origin members)

def ofJsonItems (origin : String) : List Json → List Value
  | [] => []
  | v :: vs => ofJson origin v :: ofJsonItems origin vs

def ofJsonMembers (origin : String) : List (String × Json) → Entries
  | [] => []
  | (key, v) :: rest => Entries.put (ofJsonMembers origin rest) key (ofJson origin v)

end

def tomlReader : Reader :=
  fun origin text => (Toml.read? text.toList).map (ofTomlEntries origin)

def jsonReader : Reader :=
  fun origin text => (Json.read? text).map fun v => (ofJson origin v).entries

/-- The formats as files are looked for and read in them. They are kept in a map without an order of
its own, so nothing says which of them comes first. -/
structure Formats where
  order : List FileFormat
  perm_order : order.Perm FileFormat.all
  yaml : Reader
  ini : Reader
  ron : Reader
  json5 : Reader

namespace Formats

theorem mem_order (formats : Formats) (format : FileFormat) : format ∈ formats.order :=
  formats.perm_order.mem_iff.2 format.mem_all

def reader (formats : Formats) : FileFormat → Reader
  | .toml => tomlReader
  | .json => jsonReader
  | .yaml => formats.yaml
  | .ini => formats.ini
  | .ron => formats.ron
  | .json5 => formats.json5

/-- The formats with no other readers than those of this development. A file in another format is
found, and refused. -/
def basic : Formats where
  order := FileFormat.all
  perm_order := .refl _
  yaml _ _ := none
  ini _ _ := none
  ron _ _ := none
  json5 _ _ := none

end Formats

end ScrollExport.Config
