import ScrollExport.CommandLine.Help
import ScrollExport.Settings

/-!
# Options and commands

What can be given on the command line: three options, each with a short and a long name, and after
them one of two commands.
-/

namespace ScrollExport.CommandLine

/-! ### Names -/

def programName : String := "esexport"

def programVersion : String := "0.1.0"

/-- What an option is about. -/
inductive Topic where
  | configFolder
  | runMode
  | override
deriving DecidableEq, Repr

inductive Command where
  | run
  | config
deriving DecidableEq, Repr

namespace Topic

def all : List Topic := [.configFolder, .runMode, .override]

def short : Topic → Char
  | .configFolder => 'c'
  | .runMode => 'm'
  | .override => 's'

def long : Topic → String
  | .configFolder => "config-dir"
  | .runMode => "run-mode"
  | .override => "setting"

/-- Whether the option can be given again, and takes all values that follow. -/
def repeats : Topic → Bool
  | .override => true
  | _ => false

def withShort? (c : Char) : Option Topic :=
  all.find? (·.short = c)

def withLong? (name : String) : Option Topic :=
  all.find? (·.long = name)

/-- The long name with a name for the value. -/
def usage : Topic → String
  | .configFolder => "--config-dir <config-dir>"
  | .runMode => "--run-mode <run-mode>"
  | .override => "--setting <settings>..."

end Topic

namespace Command

def name : Command → String
  | .run => "run"
  | .config => "config"

def named? (s : String) : Option Command :=
  [run, config].find? (·.name = s)

def about : Command → String
  | .run => "Execute esexport with the given configuration"
  | .config => "Prints esexport's configuration"

end Command

/-- The command that shows help pages. -/
def helpName : String := "help"

def helpAbout : String :=
  "Prints this message or the help of the given subcommand(s)"

/-- All names that stand for commands. -/
def commandNames : List String :=
  [Command.run.name, Command.config.name, helpName]

/-! ### Help -/

def Topic.help : Topic → HelpEntry
  | .configFolder =>
    { label := "-c, " ++ usage .configFolder
      summary := "Defines the config directory"
      details := some
        ("Defines the config directory\n\n" ++
          "This directory must contain 'elasticsearch' and 'esexport' subdirectories.") }
  | .runMode =>
    { label := "-m, " ++ usage .runMode
      summary := "Defines the run mode in \x7btesting, dev, prod, ...\x7d"
      details := some
        ("Defines the run mode in \x7btesting, dev, prod, ...\x7d\n\n" ++
          "If no run mode is provided, a default behavior will be used.") }
  | .override =>
    { label := "-s, " ++ usage .override
      summary := "Override settings values using key=value"
      details := none }

def switches : HelpSection where
  heading := "FLAGS"
  entries :=
    [⟨"-h, --help", "Prints help information", none⟩,
      ⟨"-V, --version", "Prints version information", none⟩]
  spreads := true

def commandList : HelpSection where
  heading := "SUBCOMMANDS"
  entries :=
    [⟨Command.config.name, Command.config.about, none⟩, ⟨helpName, helpAbout, none⟩,
      ⟨Command.run.name, Command.run.about, none⟩]
  spreads := false

def programPage : HelpPage where
  program := programName
  version := programVersion
  about := "Export the documents of Elasticsearch indices to JSON, CSV and HTML"
  usage := programName ++ " [OPTIONS] " ++ Topic.configFolder.usage ++ " <SUBCOMMAND>"
  sections := [switches, ⟨"OPTIONS", Topic.all.map Topic.help, true⟩, commandList]

/-- The page of a command, which is called with the given words before its name. -/
def Command.page (c : Command) (before : List String) : HelpPage where
  program := programName ++ "-" ++ c.name
  version := programVersion
  about := c.about
  usage := " ".intercalate ([programName] ++ before ++ [c.name])
  sections := [switches]

def helpPage : HelpPage where
  program := programName ++ "-" ++ helpName
  version := ""
  about := helpAbout
  usage := programName ++ " " ++ helpName ++ " [subcommand]..."
  sections :=
    [⟨"ARGS",
      [⟨"<subcommand>...", "The subcommand whose help message to display", none⟩], true⟩]

end ScrollExport.CommandLine
