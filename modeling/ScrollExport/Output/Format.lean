import ScrollExport.Output.Delimited
import ScrollExport.Output.Listing
import ScrollExport.Output.Markup

/-!
# Output formats

The three ways to write a table, and the bytes that each of them gives.
-/

namespace ScrollExport

inductive Format where
  | json (indented : Bool)
  | csv (delimiter : UInt8)
  | html (cls : String)
deriving DecidableEq, Repr

namespace Format

/-- The class of an HTML table if none is asked for. -/
def defaultClass : String := "dataframe"

def defaultDelimiter : UInt8 := Text.byteOf ','

def name : Format → String
  | .json _ => "json"
  | .csv _ => "csv"
  | .html _ => "html"

/-- The bytes of a table in this format. -/
def serialize (t : Table) : Format → List UInt8
  | .json true => Text.utf8 ((Listing.ofTable t).render (.indented 0))
  | .json false => Text.utf8 ((Listing.ofTable t).render .compact)
  | .csv delimiter => Delimited.ofTable delimiter t
  | .html cls => Text.utf8 (Markup.ofTable cls t)

end Format

end ScrollExport
