import ScrollExport.Json.Basic
import ScrollExport.Number.Notation
import ScrollExport.Text.Case

/-!
# Reports

What an export did: how many records and pages it received, how many records of each index, how
long it took, and which files it wrote.
-/

namespace ScrollExport

open Number

structure Duration where
  secs : Nat
  nanos : Nat
deriving DecidableEq, Repr

namespace Duration

/-- The seconds as a binary number: each part rounded, then their sum. -/
def seconds (d : Duration) : Binary64 :=
  (Binary64.ofNat d.secs).add ((Binary64.ofNat d.nanos).div (Binary64.ofNat 1000000000))

def toJson (d : Duration) : Json :=
  .obj [("secs", .nat d.secs), ("nanos", .nat d.nanos)]

end Duration

structure IndexCount where
  index : String
  count : Nat
deriving DecidableEq, Repr

structure OutputFile where
  format : String
  path : String
deriving DecidableEq, Repr

/-- What an export counted, apart from the time it took. -/
structure Tally where
  /-- Rows of the gathered table. -/
  count : Nat
  /-- Pages received, the empty ones at the end of each index included. -/
  pages : Nat
  indices : List IndexCount
  outputs : List OutputFile
deriving DecidableEq, Repr

structure Report extends Tally where
  elapsed : Duration
deriving DecidableEq, Repr

namespace Report

def toJson (r : Report) : Json :=
  .obj
    [("count", .nat r.count),
      ("pages", .nat r.pages),
      ("indices", .arr (r.indices.map fun i =>
        .obj [("index", .str i.index), ("count", .nat i.count)])),
      ("elapsed", r.elapsed.toJson),
      ("outputs", .arr (r.outputs.map fun o =>
        .obj [("format", .str o.format), ("path", .str o.path)]))]

/-- The lines before the one with the time. -/
def countLines (r : Report) : List String :=
  ["TOTAL DOC COUNT: " ++ natText r.count, "TOTAL PAGES: " ++ natText r.pages] ++
    r.indices.map (fun i => "  " ++ i.index ++ ": " ++ natText i.count) ++
    r.outputs.map (fun o => Text.toUpper o.format ++ ": " ++ o.path)

/-- What precedes the seconds in the last line. -/
def timeLabel : String := "TOTAL TIME: "

def timeText (r : Report) : String :=
  String.ofList r.elapsed.seconds.fixedChars ++ " seconds"

def text (r : Report) : String :=
  "\n".intercalate (r.countLines ++ [timeLabel ++ r.timeText])

end Report

/-- A file that could not be written, and why. -/
structure FileFailure where
  format : String
  path : String
  message : String
deriving DecidableEq, Repr

namespace FileFailure

def text (f : FileFailure) : String :=
  f.format ++ " (" ++ f.path ++ "): " ++ f.message

/-- The error of an export that could not write some of its files. -/
def describe (fs : List FileFailure) : String :=
  "Export Error: " ++ "; ".intercalate (fs.map text)

end FileFailure

/-- The error of an export that wrote what it had before a failure with this text. -/
def Tally.interruption (r : Tally) (failure : String) : String :=
  "Export Interrupted: " ++ natText r.count ++ " records exported before failure: " ++ failure

end ScrollExport
