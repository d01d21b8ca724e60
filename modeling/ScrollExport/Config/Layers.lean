import ScrollExport.Config.Format
import ScrollExport.Config.Override
import ScrollExport.FileTree
import ScrollExport.Text.Case

/-!
# Configuration layers

A configuration is built from layers, each over the ones before it: for every folder its default
file, the file of the run mode if there is one and its local file; then the environment; then the
overrides. A key of a layer that reads as a path is assigned at that path. A file that is asked for
in TOML and is not there may be there in any format, with one more extension.
-/

namespace ScrollExport.Config

/-- The variables of an environment. -/
abbrev Environment := List (String × String)

/-- Why a configuration cannot be built. -/
inductive LayerError where
  | override (e : OverrideError)
  | missingFile (path : String)
  | badFile (path : String)
deriving DecidableEq, Repr

/-- The text of a failure to build a configuration. -/
def LayerError.message : LayerError → String
  | .override e => e.message
  | .missingFile path =>
    "Config Compilation Error: configuration file \"" ++ path ++ "\" not found"
  | .badFile path => "Config Compilation Error: invalid file " ++ path

/-! ### Layers -/

/-- Put the entries of a layer over a configuration. -/
def applyLayer (root : Value) (layer : Entries) : Value :=
  layer.foldl (fun root e => KeyPath.assignKey root e.1 e.2) root

def ofLayers (layers : List Entries) : Value :=
  layers.foldl applyLayer .emptyTable

/-! ### File names -/

/-- The pieces of a path without those at its end that stay in a folder. -/
def dropTrailing (pieces : List String) : List String :=
  match (pieces.reverse.dropWhile fun p => p = "" || p = ".").reverse with
  | [] => pieces.take 1
  | ps => ps

/-- A name up to its last dot, unless the dot comes first. -/
def stem (name : String) : String :=
  let cs := name.toList
  match cs.reverse.dropWhile (· ≠ '.') with
  | [] | [_] => name
  | _ :: before => if before = [] then name else String.ofList before.reverse

/-- The extension of the files that are asked for. -/
def extension : String := ".toml"

/-- Give the last name of a path the extension, in place of its own. -/
def withExtension (path : String) : String :=
  let pieces := dropTrailing (Text.split '/' path)
  match pieces.getLast? with
  | none => path
  | some last =>
    if last = "" || last = "." || last = ".." then path
    else "/".intercalate (pieces.dropLast ++ [stem last ++ extension])

/-- The name of a file in messages about its values. -/
def originOf (path : String) : String :=
  if Path.isAbsolute path then path else "/".intercalate (Path.names path)

/-! ### Files -/

/-- The text of a file, if it is UTF-8. -/
def textOf? (bytes : List UInt8) : Option String :=
  String.fromUTF8? ⟨bytes.toArray⟩

/-- A configuration file where it was found. -/
structure ConfigFile where
  path : String
  format : FileFormat
  bytes : List UInt8
deriving DecidableEq, Repr

/-- Where the file of a path with the extension can be: at the path itself, or else with one more
extension. A path that got no extension has no name to add one to. -/
def Formats.candidates (formats : Formats) (path : String) : List (FileFormat × String) :=
  (.toml, path) ::
    if path.endsWith extension then
      formats.order.flatMap fun format => format.extensions.map fun e => (format, path ++ e)
    else []

/-- The first file that there is for a path. -/
def Formats.find? (formats : Formats) (files : FileTree) (path : String) : Option ConfigFile :=
  (formats.candidates path).findSome? fun (format, path) =>
    (files.read? path).map fun bytes => ⟨path, format, bytes⟩

/-- What a reader makes of a file. -/
def layerOf (reader : Reader) (path : String) (bytes : List UInt8) : Except LayerError Entries :=
  match (textOf? bytes).bind (reader (originOf path)) with
  | some entries => .ok entries
  | none => .error (.badFile path)

def Formats.layer (formats : Formats) (file : ConfigFile) : Except LayerError Entries :=
  layerOf (formats.reader file.format) file.path file.bytes

/-- The layer of a file that must be there. -/
def requiredLayer (formats : Formats) (files : FileTree) (path : String) :
    Except LayerError Entries :=
  match formats.find? files path with
  | none => .error (.missingFile path)
  | some file => formats.layer file

/-- The layer of a file that need not be there. One that is no text counts as none, but not one that
its reader refuses. -/
def optionalLayer (formats : Formats) (files : FileTree) (path : String) :
    Except LayerError Entries :=
  match formats.find? files path with
  | none => .ok []
  | some file => if (textOf? file.bytes).isNone then .ok [] else formats.layer file

/-- The path of a file of a folder. -/
def filePath (folder name : String) : String :=
  withExtension (Path.join folder name)

/-- The layers of one folder. -/
def folderLayers (formats : Formats) (files : FileTree) (folder : String)
    (runMode : Option String) : Except LayerError (List Entries) := do
  let default ← requiredLayer formats files (filePath folder "default")
  let mode ← match runMode with
    | some name => (requiredLayer formats files (filePath folder name)).map ([·])
    | none => pure []
  let local' ← optionalLayer formats files (filePath folder "local")
  pure ([default] ++ mode ++ [local'])

/-! ### The environment -/

/-- The name of the environment in messages about its values. -/
def environmentOrigin : String := "the environment"

/-- Underscores separate the keys of a path. -/
def dotted (cs : List Char) : String :=
  String.ofList (cs.map fun c => if c = '_' then '.' else c)

/-- The variables whose names start with the prefix and an underscore, in any case. -/
def environmentLayer (env : Environment) (namePrefix : String) : Entries :=
  let start := (Text.toLower (namePrefix ++ "_")).toList
  env.foldl
    (fun es (name, value) =>
      let cs := (Text.toLower name).toList
      if start.isPrefixOf cs then
        es.put (dotted (cs.drop start.length)) (.scalar (some environmentOrigin) (.str value))
      else es)
    []

/-- The variable that names the run mode. -/
def runModeVariable : String := "RUN_MODE"

/-- The run mode of the environment, or else the given one. -/
def effectiveRunMode (env : Environment) (given : Option String) : Option String :=
  (env.lookup runModeVariable).or given

/-! ### Resolution -/

/-- Where a configuration comes from. -/
structure Sources where
  folder : String
  subfolders : List String
  runMode : Option String
  namePrefix : String
  overrides : List String
deriving DecidableEq, Repr

/-- All layers in order. The overrides are read before any file. -/
def Sources.layers (s : Sources) (env : Environment) (files : FileTree) (formats : Formats) :
    Except LayerError (List Entries) := do
  let overrides ← (ofOverrides s.overrides).mapError .override
  let runMode := effectiveRunMode env s.runMode
  let folders ← s.subfolders.mapM fun sub =>
    folderLayers formats files (Path.join s.folder sub) runMode
  pure (folders.flatten ++ [environmentLayer env s.namePrefix, overrides.entries])

def Sources.resolve (s : Sources) (env : Environment) (files : FileTree)
    (formats : Formats := .basic) : Except LayerError Value :=
  (s.layers env files formats).map ofLayers

end ScrollExport.Config
