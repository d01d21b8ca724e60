import ScrollExport.Program

/-!
# Command line

The outer layer of the program. It reads the configuration files that the settings can need and the
environment, calls the program, and prints what it gives. No network is within reach of this layer,
so a server never answers it.
-/

namespace ScrollExport.Outer

/-- The tree with a file at a path, below all folders that lead there. -/
def withFile (t : FileTree) (path : String) (bytes : List UInt8) : FileTree :=
  let names := Path.names path
  let (t, folder) := names.dropLast.foldl
    (fun (t, here) name =>
      if name = ".." then (t, FileTree.above here)
      else
        let place := here ++ [name]
        (if (t.entry? place).isSome then t else t.put place .folder, place))
    (t, t.origin path)
  match names.getLast? with
  | none => t
  | some name => t.put (folder ++ [name]) (.file bytes)

/-- The paths at which configuration files of a request can be. -/
def configurationPaths (r : Settings.Request) (env : Config.Environment) : List String :=
  let names := ["default", "local"] ++ (Config.effectiveRunMode env r.runMode).toList
  r.sources.subfolders.flatMap fun sub =>
    names.flatMap fun name =>
      (Config.Formats.basic.candidates (Config.filePath (Path.join r.folder sub) name)).map (·.2)

/-- Read a file into the tree, if it is there. -/
def load (t : FileTree) (path : String) : IO FileTree := do
  try
    let bytes ← IO.FS.readBinFile path
    pure (withFile t path bytes.toList)
  catch _ => pure t

def readTree (words : List String) (env : Config.Environment) : IO FileTree := do
  let here ← IO.currentDir
  let empty := FileTree.empty (Path.names here.toString)
  match CommandLine.read words with
  | .error _ => pure empty
  | .ok a => (configurationPaths a.request env).foldlM load empty

def readEnvironment : IO Config.Environment := do
  let bytes ← IO.FS.readBinFile "/proc/self/environ"
  let text := (Config.textOf? bytes.toList).getD ""
  pure ((Text.split '\x00' text).filterMap fun entry =>
    (Text.splitFirst '=' entry.toList).map fun (name, value) =>
      (String.ofList name, String.ofList value))

end ScrollExport.Outer

open ScrollExport in
def main (args : List String) : IO UInt32 := do
  let env ← Outer.readEnvironment
  let files ← Outer.readTree args env
  let c := Program.call args env ⟨0, 0⟩ ⟨[.silence], []⟩ files
  (← IO.getStdout).putStr c.output
  match c.complaint with
  | none => pure ()
  | some text => (← IO.getStderr).putStrLn text
  pure c.exitCode.toUInt32
