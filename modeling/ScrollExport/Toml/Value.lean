import ScrollExport.Number.Binary64

/-!
# TOML values

What a document holds. Dates and times are text in their normal form.
-/

namespace ScrollExport.Toml

inductive Value where
  | bool (b : Bool)
  | int (i : Int)
  | float (x : Binary64)
  | str (s : String)
  | arr (items : List Value)
  | table (entries : List (String × Value))
deriving Inhabited

end ScrollExport.Toml
