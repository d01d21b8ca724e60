import ScrollExport.Report
import ScrollExport.Scroll.Service
import ScrollExport.Table

/-!
# Draining scrolls

An index is drained by following its cursors until a page is empty or a request fails; then the
last cursor received is released, whatever happened. Indices are drained one after the other into
one table, up to the first failure.
-/

namespace ScrollExport

variable {σ ε : Type}

/-- What has been gathered so far, and the state of the service. -/
structure Progress (σ : Type) where
  state : σ
  table : Table
  pages : Nat

namespace Progress

def start (s : σ) : Progress σ :=
  ⟨s, Table.empty, 0⟩

end Progress

/-- The end of following one scroll: the failure that ended it, if any, and its last cursor. -/
structure Followed (σ ε : Type) where
  failure : Option (ScrollError ε)
  cursor : Cursor
  progress : Progress σ

/-- A search that failed: the index, the rows gathered by then, and the failed request. -/
structure SearchFailure (ε : Type) where
  index : String
  count : Nat
  source : ScrollError ε
deriving DecidableEq, Repr

namespace SearchFailure

def map {ε' : Type} (f : ε → ε') (e : SearchFailure ε) : SearchFailure ε' :=
  ⟨e.index, e.count, e.source.map f⟩

def message (e : SearchFailure String) : String :=
  "Search Error on index " ++ e.index ++ " after " ++ Number.natText e.count ++ " records: " ++
    e.source.message

end SearchFailure

/-- Everything that the indices of a query gave. -/
structure Gathered (σ ε : Type) where
  progress : Progress σ
  counts : List IndexCount
  failure : Option (SearchFailure ε)

namespace Service

/-- Keep a page that was received, and ask for the next one until a page is empty. -/
def follow (svc : Service σ ε) (keepAlive : String) (page : Page) (p : Progress σ) :
    Followed σ ε :=
  if page.isEmpty then ⟨none, page.cursor, p⟩
  else
    let table := p.table.extend page.records
    match h : svc.nextPage page.cursor keepAlive p.state with
    | (.error cause, state) => ⟨some (.continuation cause), page.cursor, ⟨state, table, p.pages⟩⟩
    | (.ok next, state) =>
      if hn : next.isEmpty then ⟨none, next.cursor, ⟨state, table, p.pages + 1⟩⟩
      else svc.follow keepAlive next ⟨state, table, p.pages + 1⟩
termination_by svc.budget p.state
decreasing_by exact svc.budget_lt h (by simpa using hn)

/-- Drain one index. A scroll that was opened is released. -/
def drain (svc : Service σ ε) (q : Query) (index : String) (p : Progress σ) :
    Option (ScrollError ε) × Progress σ :=
  match svc.openScroll q index p.state with
  | (.error cause, state) => (some (.opening index cause), { p with state })
  | (.ok page, state) =>
    let f := svc.follow q.keepAlive page ⟨state, p.table, p.pages + 1⟩
    let (_, state) := svc.release f.cursor f.progress.state
    (f.failure, { f.progress with state })

/-- Drain indices in order, up to the first failure. -/
def gather (svc : Service σ ε) (q : Query) : List String → Progress σ → Gathered σ ε
  | [], p => ⟨p, [], none⟩
  | index :: rest, p =>
    let (failure, p') := svc.drain q index p
    let entry : IndexCount := ⟨index, p'.table.size - p.table.size⟩
    match failure with
    | some source => ⟨p', [entry], some ⟨index, p'.table.size, source⟩⟩
    | none =>
      let g := svc.gather q rest p'
      { g with counts := entry :: g.counts }

end Service

end ScrollExport
