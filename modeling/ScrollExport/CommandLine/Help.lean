/-!
# Help pages

What a command tells about itself: its name, how it is called, and sections with a line for each
thing that can be given to it. A page can be shown in full, with the details under each name.
-/

namespace ScrollExport.CommandLine

/-- A name that can be given and what is told about it. -/
structure HelpEntry where
  label : String
  summary : String
  /-- What is told in full, in place of the summary. -/
  details : Option String
deriving DecidableEq, Repr

structure HelpSection where
  heading : String
  entries : List HelpEntry
  /-- Whether the entries take lines of their own when a page is shown in full. -/
  spreads : Bool
deriving DecidableEq, Repr

structure HelpPage where
  program : String
  version : String
  about : String
  usage : String
  sections : List HelpSection
deriving DecidableEq, Repr

def indent : String := "    "

def spaces (n : Nat) : String :=
  String.ofList (List.replicate n ' ')

def padded (width : Nat) (s : String) : String :=
  s ++ spaces (width - s.length)

/-- Every line but the first behind three steps. -/
def indentLines (s : String) : String :=
  let inner := indent ++ indent ++ indent
  String.ofList (s.toList.flatMap fun c => if c = '\n' then '\n' :: inner.toList else [c])

namespace HelpEntry

def line (width : Nat) (e : HelpEntry) : String :=
  indent ++ padded (width + 4) e.label ++ e.summary

/-- The label, and below it all that is told. One line is set off by an empty one. -/
def paragraph (width : Nat) (e : HelpEntry) : String :=
  let told := e.details.getD e.summary
  indent ++ padded (width + 4) e.label ++ indentLines ("\n" ++ told) ++
    (if told.toList.contains '\n' then "" else "\n")

end HelpEntry

def HelpSection.text (inFull : Bool) (s : HelpSection) : String :=
  let width := s.entries.foldl (fun n e => max n e.label.length) 0
  let entry := if inFull && s.spreads then HelpEntry.paragraph width else HelpEntry.line width
  s.heading ++ ":\n" ++ "\n".intercalate (s.entries.map entry)

/-- Whether there is more to show than the summaries. -/
def HelpPage.hasDetails (p : HelpPage) : Bool :=
  p.sections.any fun s => s.entries.any (·.details.isSome)

def HelpPage.text (inFull : Bool) (p : HelpPage) : String :=
  let inFull := inFull && p.hasDetails
  p.program ++ " " ++ p.version ++ "\n" ++ p.about ++ "\n\nUSAGE:\n" ++ indent ++ p.usage ++
    "\n\n" ++ "\n\n".intercalate (p.sections.map (HelpSection.text inFull))

end ScrollExport.CommandLine
