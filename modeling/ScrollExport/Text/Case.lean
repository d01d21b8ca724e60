import ScrollExport.Text.CaseTable

/-!
# Letter case

Full upper and lower case of a text: a letter may become several characters, and a capital sigma
at the end of a word becomes the final small sigma.
-/

namespace ScrollExport.Text

/-- The code point `n` moved by the first run that holds it. -/
def CaseRun.apply (runs : List CaseRun) (n : Nat) : Nat :=
  match runs.find? (·.contains n) with
  | some r => (n + r.shift).toNat
  | none => n

/-- The case mapping of one character. -/
def mapCase (runs : List CaseRun) (expansions : List (Nat × List Nat)) (c : Char) : List Char :=
  match expansions.lookup c.toNat with
  | some ns => ns.map Char.ofNat
  | none => [Char.ofNat (CaseRun.apply runs c.toNat)]

def upperChar (c : Char) : List Char :=
  mapCase upperRuns upperExpansions c

def lowerChar (c : Char) : List Char :=
  mapCase lowerRuns lowerExpansions c

/-- A letter that has another case. -/
def isCased (c : Char) : Bool :=
  upperChar c != [c] || lowerChar c != [c]

/-- Lower case of the characters that follow `before`. -/
def lowerAfter (before : Option Char) : List Char → List Char
  | [] => []
  | c :: rest =>
    let final := c == 'Σ' && before.any isCased && !rest.head?.any isCased
    (if final then ['ς'] else lowerChar c) ++ lowerAfter (some c) rest

def toUpper (s : String) : String :=
  String.ofList (s.toList.flatMap upperChar)

def toLower (s : String) : String :=
  String.ofList (lowerAfter none s.toList)

end ScrollExport.Text
