import ScrollExport.Search.Session
import ScrollExport.Settings

/-!
# Runs

An export as settings ask for it: the settings are checked, the credentials are taken from the
endpoint, and only then the server is asked for anything. A whole run opens its log first and
prints its report at the end, also the report of an export that was interrupted.
-/

namespace ScrollExport

/-! ### Errors -/

/-- Why a log cannot be opened. -/
inductive LogError where
  /-- There is one already. -/
  | taken
  | file (cause : FileError)
deriving DecidableEq, Repr

def LogError.message : LogError → String
  | .taken =>
    "Could not setup log tracer: attempted to set a logger after the logging system was already " ++
      "initialized"
  | .file cause => "Could not init log file: " ++ cause.message

inductive RunError where
  | settings (e : Settings.Error)
  | log (e : LogError)
  | endpoint (e : Search.EndpointError)
  | exporting (e : ExportError Search.Fault)
deriving DecidableEq, Repr

namespace RunError

def message : RunError → String
  | .settings e => "Settings (Configuration or CLI) Error: " ++ e.message
  | .log e => "Logger Initialization Error: " ++ e.message
  | .endpoint e => "Elasticsearch Connection Pool " ++ e.message
  | .exporting e => (e.map Search.Fault.message).message

/-- The report of what was written all the same. -/
def report? : RunError → Option Report
  | .exporting (.interrupted report _) => some report
  | _ => none

end RunError

/-- What a run leaves behind. -/
structure Run (α : Type) where
  result : Except RunError α
  files : FileTree
  server : Search.Server

/-! ### Exports -/

/-- Export what the settings ask for from the server to the files. -/
def Settings.export (s : Settings) (elapsed : Duration) (server : Search.Server)
    (files : FileTree) : Run Report :=
  match s.plan with
  | .error e => ⟨.error (.settings e), files, server⟩
  | .ok plan =>
    match s.endpoint.access with
    | .error e => ⟨.error (.endpoint e), files, server⟩
    | .ok access =>
      let (outcome, server) :=
        access.service.connectAndExport access.connect plan elapsed server files
      ⟨outcome.result.mapError .exporting, outcome.files, server⟩

/-! ### Logs -/

/-- Make the file for a log, unless it is there. A log in a folder has a file of its own, named
after the day, and a log without a path has none; what logs hold is not part of the tree. -/
def openLog (path : Option String) (files : FileTree) : Except LogError FileTree :=
  match path with
  | none => .ok files
  | some path =>
    if files.isFolder path then .ok files else (files.touch path).mapError .file

/-! ### Whole runs -/

/-- Open the log, export, and give the text that is printed. -/
def Settings.run (s : Settings) (hasLog : Bool) (elapsed : Duration) (server : Search.Server)
    (files : FileTree) : Run Unit × String :=
  if hasLog then (⟨.error (.log .taken), files, server⟩, "")
  else
    match openLog s.logPath files with
    | .error e => (⟨.error (.log e), files, server⟩, "")
    | .ok files =>
      let r := s.export elapsed server files
      let printed := match r.result with
        | .ok report => some report
        | .error e => e.report?
      (⟨r.result.map fun _ => (), r.files, r.server⟩,
        (printed.map fun report => report.text ++ "\n").getD "")

end ScrollExport
