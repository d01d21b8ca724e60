import ScrollExport.FileTree
import ScrollExport.Output.Format
import ScrollExport.Scroll.Drain

/-!
# Exports

An export drains every index of a query into one table and writes the table to each of its targets.
When a search fails, what was gathered is dropped or written, as the policy says. No file is
touched before all requests are made, and a target that cannot be written does not keep the others
from being written.
-/

namespace ScrollExport

variable {σ ε : Type}

/-- A file to write, and how. -/
structure Target where
  path : String
  format : Format
deriving DecidableEq, Repr

def Target.output (t : Target) : OutputFile :=
  ⟨t.format.name, t.path⟩

/-- What becomes of the gathered rows when a search fails. -/
inductive FailurePolicy where
  | discard
  | keep
deriving DecidableEq, Repr

/-- Everything that an export is told to do. -/
structure ExportPlan where
  query : Query
  targets : List Target
  policy : FailurePolicy

/-- Where the three files of an export go. -/
structure OutputPaths where
  json : String
  csv : String
  html : String
deriving DecidableEq, Repr

namespace OutputPaths

def standard : OutputPaths :=
  ⟨"object.json", "object.csv", "objectrocket.html"⟩

/-- A listing, delimited text and an HTML table. -/
def targets (paths : OutputPaths) (delimiter : UInt8) : List Target :=
  [⟨paths.json, .json true⟩, ⟨paths.csv, .csv delimiter⟩, ⟨paths.html, .html Format.defaultClass⟩]

end OutputPaths

/-! ### Errors -/

/-- Why no session with the service could be started. -/
inductive ConnectionError where
  | connection (cause : String)
  | authentication (details : String)
deriving DecidableEq, Repr

def ConnectionError.message : ConnectionError → String
  | .connection cause => "Connection Error: " ++ cause
  | .authentication details => "Authentication Error: " ++ details

inductive ExportError (ε : Type) where
  | connection (cause : ConnectionError)
  | search (failure : SearchFailure ε)
  | files (failures : List FileFailure)
  | interrupted (report : Report) (failure : SearchFailure ε)
deriving DecidableEq, Repr

namespace ExportError

def map {ε' : Type} (f : ε → ε') : ExportError ε → ExportError ε'
  | .connection cause => .connection cause
  | .search failure => .search (failure.map f)
  | .files failures => .files failures
  | .interrupted report failure => .interrupted report (failure.map f)

def message : ExportError String → String
  | .connection cause => "Connection Error: " ++ cause.message
  | .search failure => failure.message
  | .files failures => FileFailure.describe failures
  | .interrupted report failure => report.interruption failure.message

end ExportError

/-! ### Writing -/

/-- The text of a file that cannot be created. -/
def creationFailure (path : String) (e : FileError) : String :=
  "Output Creation Error for " ++ path ++ ": " ++ e.message

/-- Write a table to one target. -/
def Target.write (t : Target) (table : Table) (files : FileTree) : Except FileFailure FileTree :=
  match files.write t.path (t.format.serialize table) with
  | .ok files => .ok files
  | .error e => .error ⟨t.format.name, t.path, creationFailure t.path e⟩

/-- Write a table to each target in order, and collect the failures. -/
def writeTargets (table : Table) : List Target → FileTree → List FileFailure × FileTree
  | [], files => ([], files)
  | t :: rest, files =>
    match t.write table files with
    | .ok files => writeTargets table rest files
    | .error failure =>
      let (failures, files) := writeTargets table rest files
      (failure :: failures, files)

/-! ### Exporting -/

/-- The end of an export: its report or error, and the files. -/
structure Outcome (ε : Type) where
  result : Except (ExportError ε) Report
  files : FileTree

/-- The report on what was gathered for a plan. -/
def ExportPlan.report (plan : ExportPlan) (g : Gathered σ ε) (elapsed : Duration) : Report where
  count := g.progress.table.size
  pages := g.progress.pages
  indices := g.counts
  outputs := plan.targets.map Target.output
  elapsed := elapsed

/-- What an export does with the rows it gathered. -/
def ExportPlan.conclude (plan : ExportPlan) (g : Gathered σ ε) (elapsed : Duration)
    (files : FileTree) : Outcome ε :=
  let write (result : Except (ExportError ε) Report) : Outcome ε :=
    let (failures, files) := writeTargets g.progress.table plan.targets files
    ⟨if failures = [] then result else .error (.files failures), files⟩
  match g.failure, plan.policy with
  | none, _ => write (.ok (plan.report g elapsed))
  | some failure, .discard => ⟨.error (.search failure), files⟩
  | some failure, .keep => write (.error (.interrupted (plan.report g elapsed) failure))

/-- Export from a service that is connected. -/
def Service.export (svc : Service σ ε) (plan : ExportPlan) (elapsed : Duration) (s : σ)
    (files : FileTree) : Outcome ε × σ :=
  let g := svc.gather plan.query plan.query.indices (.start s)
  (plan.conclude g elapsed files, g.progress.state)

/-- Connect, then export. Nothing happens after a refusal. -/
def Service.connectAndExport (svc : Service σ ε) (connect : σ → Except ConnectionError Unit × σ)
    (plan : ExportPlan) (elapsed : Duration) (s : σ) (files : FileTree) : Outcome ε × σ :=
  match connect s with
  | (.error cause, s) => (⟨.error (.connection cause), files⟩, s)
  | (.ok (), s) => svc.export plan elapsed s files

end ScrollExport
