import ScrollExport.CommandLine.Reader
import ScrollExport.Run

/-!
# The program

One call of the program: the command line is read, the settings are found, and the command is done.
All that a call can see and change is a value: the environment, the files and the server, and the
formats in which configuration files are read.
-/

namespace ScrollExport

/-- What a call of the program leaves behind. -/
structure Completion where
  exitCode : Nat
  /-- What is printed. -/
  output : String
  /-- What is told when something went wrong. -/
  complaint : Option String
  files : FileTree
  server : Search.Server

namespace CommandLine

def Fault.message : Fault → String
  | .noCommand => "a command is required: " ++ " or ".intercalate commandNames
  | .noConfigFolder => "the option " ++ Topic.configFolder.usage ++ " is required"
  | .unknownWord word => "unexpected argument '" ++ word ++ "'"
  | .misspelledCommand word => "the command '" ++ word ++ "' is not known here"
  | .unknownCommand word => "the command '" ++ word ++ "' is not known"
  | .noValue topic => "the option " ++ topic.usage ++ " needs a value"
  | .givenAgain topic => "the option " ++ topic.usage ++ " was given more than once"

end CommandLine

namespace Program

open CommandLine (Stop Arguments)

/-- A page or a version is what was asked for; a fault is not. -/
def stopped (stop : Stop) (files : FileTree) (server : Search.Server) : Completion :=
  match stop with
  | .help page inFull => ⟨0, page.text inFull ++ "\n", none, files, server⟩
  | .version program =>
    ⟨0, program ++ " " ++ CommandLine.programVersion ++ "\n", none, files, server⟩
  | .fault f => ⟨1, "", some f.message, files, server⟩

/-- Do a command with its settings. -/
def perform (command : CommandLine.Command) (s : Settings) (elapsed : Duration)
    (server : Search.Server) (files : FileTree) : Completion :=
  match command with
  | .config => ⟨0, s.printed ++ "\n", none, files, server⟩
  | .run =>
    let (r, output) := s.run false elapsed server files
    match r.result with
    | .ok () => ⟨0, output, none, r.files, r.server⟩
    | .error e => ⟨1, output, some e.message, r.files, r.server⟩

/-- Call the program with the words of a command line. -/
def call (words : List String) (env : Config.Environment) (elapsed : Duration)
    (server : Search.Server) (files : FileTree) (formats : Config.Formats := .basic) :
    Completion :=
  match CommandLine.read words with
  | .error stop => stopped stop files server
  | .ok (a : Arguments) =>
    match Settings.resolve a.request env files formats with
    | .error e => ⟨1, "", some (RunError.settings e).message, files, server⟩
    | .ok s => perform a.command s elapsed server files

end Program

end ScrollExport
