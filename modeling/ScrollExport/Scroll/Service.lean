import ScrollExport.Query
import ScrollExport.Record

/-!
# Search services

A service opens a scroll over one index, continues it page by page and releases it. What it
remembers is its state, and why it fails is its own kind of cause. No service serves pages for
ever: its budget drops with every page that holds a record.
-/

namespace ScrollExport

structure Service (σ ε : Type) where
  openScroll : Query → String → σ → Except ε Page × σ
  nextPage : Cursor → String → σ → Except ε Page × σ
  release : Cursor → σ → Except ε Unit × σ
  budget : σ → Nat
  budget_lt : ∀ {cursor keepAlive s page s'},
    nextPage cursor keepAlive s = (.ok page, s') → page.isEmpty = false → budget s' < budget s

/-- A failed request to a service. -/
inductive ScrollError (ε : Type) where
  | opening (index : String) (cause : ε)
  | continuation (cause : ε)
  | release (cause : ε)
deriving DecidableEq, Repr

namespace ScrollError

def map {ε ε' : Type} (f : ε → ε') : ScrollError ε → ScrollError ε'
  | .opening index cause => .opening index (f cause)
  | .continuation cause => .continuation (f cause)
  | .release cause => .release (f cause)

/-- The text of a failure, given the text of its cause. -/
def message : ScrollError String → String
  | .opening index cause => "Scroll Opening Error on " ++ index ++ ": " ++ cause
  | .continuation cause => "Scroll Continuation Error: " ++ cause
  | .release cause => "Scroll Release Error: " ++ cause

end ScrollError

end ScrollExport
