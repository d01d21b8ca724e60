import ScrollExport.CommandLine.Options
import ScrollExport.Text.Similarity
import ScrollExport.Text.Split

/-!
# Reading the command line

Options come first, then one command, and nothing after it but the switches for help and version.
An option without a value in its own word takes the words that follow: one, or for the option that
repeats all of them up to the next one with a hyphen, also those that name commands.
-/

namespace ScrollExport.CommandLine

/-- What is wrong with a command line. -/
inductive Fault where
  | noCommand
  | noConfigFolder
  | unknownWord (word : String)
  /-- A word that is like a command, where no command can be. -/
  | misspelledCommand (word : String)
  | unknownCommand (word : String)
  | noValue (topic : Topic)
  | givenAgain (topic : Topic)
deriving DecidableEq, Repr

/-- Why a command line gives nothing to do. -/
inductive Stop where
  | help (page : HelpPage) (inFull : Bool)
  | version (program : String)
  | fault (f : Fault)
deriving DecidableEq, Repr

/-- One use of an option, with its values. -/
structure Use where
  topic : Topic
  values : List String
deriving DecidableEq, Repr

/-- What a command line says. -/
structure Arguments where
  configFolder : String
  runMode : Option String
  overrides : List String
  command : Command
deriving DecidableEq, Repr

/-! ### Words -/

/-- Whether a word has the form of an option. -/
def isHyphenated (word : String) : Bool :=
  match word.toList with
  | '-' :: _ :: _ => true
  | _ => false

def dropEqualsSigns (cs : List Char) : String :=
  String.ofList (cs.dropWhile (· = '='))

/-- The name of a long option and the value in the same word. -/
def longParts (word : String) : String × Option String :=
  let cs := word.toList.dropWhile (· = '-')
  match Text.splitFirst '=' cs with
  | none => (String.ofList cs, none)
  | some (name, value) => (String.ofList name, some (dropEqualsSigns value))

/-- A word where only a command could be. -/
def strayWord (names : List String) (word : String) : Fault :=
  if names.any (Text.isSimilar word) then .misspelledCommand word else .unknownWord word

/-- What the switches do, by their long names and their letters. -/
def switch? (page : HelpPage) (word : String) : Option Stop :=
  if word.startsWith "--" then
    match (longParts word).1 with
    | "help" => some (.help page true)
    | "version" => some (.version page.program)
    | _ => none
  else
    match (word.toList.drop 1).head? with
    | some 'h' => some (.help page false)
    | some 'V' => some (.version page.program)
    | _ => none

/-- An option in a word of its own or with its value, and whether it takes the words that follow. -/
def use? (word : String) : Option (Use × Bool) :=
  if word.startsWith "--" then
    let (name, value) := longParts word
    (Topic.withLong? name).map fun t => (⟨t, value.toList⟩, value.isNone)
  else
    match word.toList.drop 1 with
    | [] => none
    | c :: value =>
      (Topic.withShort? c).map fun t =>
        if value = [] then (⟨t, []⟩, true)
        else (⟨t, [dropEqualsSigns value]⟩, t.repeats && value.head? ≠ some '=')

/-! ### Commands -/

/-- The page that the command for help shows. -/
def readHelp : List String → Stop
  | [] => .help programPage false
  | name :: rest =>
    let page? := if name = helpName then some helpPage else
      (Command.named? name).map fun c => c.page []
    match page?, rest with
    | none, _ => .fault (.unknownCommand name)
    | some page, [] => .help page false
    | some _, next :: _ => .fault (.unknownCommand next)

/-- What comes after a command. -/
def readAfterCommand (page : HelpPage) : List String → Except Stop Unit
  | [] => .ok ()
  | ["--"] => .ok ()
  | "--" :: word :: _ => .error (.fault (.unknownWord word))
  | word :: _ =>
    .error <|
      if isHyphenated word then (switch? page word).getD (.fault (.unknownWord word))
      else .fault (.unknownWord word)

/-! ### Uses -/

/-- All values of the uses of an option. -/
def valuesOf (uses : List Use) (t : Topic) : List String :=
  (uses.filter (·.topic = t)).flatMap Use.values

/-- An option that is used needs a value, and only one that repeats can be used again. -/
def checkUses (uses : List Use) (t : Topic) : Except Stop Unit :=
  let count := (uses.filter (·.topic = t)).length
  if 0 < count && (valuesOf uses t).isEmpty then .error (.fault (.noValue t))
  else if 1 < count && !t.repeats then .error (.fault (.givenAgain t))
  else .ok ()

/-- What the uses before a command say. -/
def conclude (uses : List Use) (c : Command) : Except Stop Arguments := do
  if uses.all (·.topic ≠ .configFolder) then throw (.fault .noConfigFolder)
  Topic.all.forM (checkUses uses)
  pure
    { configFolder := (valuesOf uses .configFolder).headD ""
      runMode := (valuesOf uses .runMode).head?
      overrides := valuesOf uses .override
      command := c }

/-- The words that a command still needs before it. -/
def needed (uses : List Use) : List String :=
  if uses.any (·.topic = .configFolder) then [] else [Topic.configFolder.usage]

/-! ### Reading -/

/-- Give the newest use one more value. -/
def addValue (word : String) : List Use → List Use
  | [] => []
  | u :: uses => { u with values := u.values ++ [word] } :: uses

/-- Whether the newest use takes more words after one. -/
def takesMore : List Use → Bool
  | [] => false
  | u :: _ => u.topic.repeats

/-- Read words after some uses, the newest first; if it waits, the newest takes the next word. -/
def readFrom (uses : List Use) (waits : Bool) : List String → Except Stop Arguments
  | [] => .error (.fault .noCommand)
  | "--" :: [] => .error (.fault .noCommand)
  | "--" :: word :: _ => .error (.fault (strayWord commandNames word))
  | word :: rest =>
    if isHyphenated word then
      match use? word, switch? programPage word with
      | some (use, waits), _ => readFrom (use :: uses) waits rest
      | none, some stop => .error stop
      | none, none => .error (.fault (.unknownWord word))
    else if waits then readFrom (addValue word uses) (takesMore uses) rest
    else if word = helpName then .error (readHelp rest)
    else
      match Command.named? word with
      | none => .error (.fault (strayWord commandNames word))
      | some c => do
        readAfterCommand (c.page (needed uses)) rest
        conclude uses.reverse c

/-- What the words of a command line say. -/
def read (words : List String) : Except Stop Arguments :=
  readFrom [] false words

def Arguments.request (a : Arguments) : Settings.Request :=
  ⟨a.configFolder, a.runMode, a.overrides⟩

end ScrollExport.CommandLine
