import ScrollExport.Config.Value
import ScrollExport.Number.Digits

/-!
# Key paths

A path is a key, then further keys after dots and indices between brackets. Assigning at a path
makes the tables and arrays on the way where they are missing.
-/

namespace ScrollExport.Config

open Number

inductive PathStep where
  | key (name : String)
  | index (i : Int)
deriving DecidableEq, Repr

/-- A path always starts with a key. -/
structure KeyPath where
  head : String
  rest : List PathStep
deriving DecidableEq, Repr

namespace KeyPath

/-! ### Reading -/

def isKeyChar (c : Char) : Bool :=
  c.isAlphanum || c = ' ' || c = '_' || c = '-'

def isGap (c : Char) : Bool :=
  c = ' ' || c = '\t'

/-- The number between brackets, with gaps around it. -/
def readIndex? (cs : List Char) : Option Int :=
  let body := cs.dropWhile isGap
  let body := (body.reverse.dropWhile isGap).reverse
  if body.head? = some '+' then none else signed? body

/-- Read the steps after the first key. -/
def readSteps? (cs : List Char) : Option (List PathStep) :=
  match cs with
  | [] => some []
  | '.' :: rest =>
    let name := rest.takeWhile isKeyChar
    if name = [] then none
    else
      (readSteps? (rest.dropWhile isKeyChar)).map (.key (String.ofList name) :: ·)
  | '[' :: rest =>
    match _h : rest.dropWhile (· ≠ ']') with
    | [] => none
    | _ :: after =>
      (readIndex? (rest.takeWhile (· ≠ ']'))).bind fun i =>
        (readSteps? after).map (.index i :: ·)
  | _ => none
termination_by cs.length
decreasing_by
  · have := (List.dropWhile_sublist isKeyChar (l := rest)).length_le
    simp only [List.length_cons]
    omega
  · have := (List.dropWhile_sublist (fun c => decide (c ≠ ']')) (l := rest)).length_le
    rw [_h] at this
    simp only [List.length_cons] at this ⊢
    omega

def read? (s : String) : Option KeyPath :=
  let cs := s.toList
  let name := cs.takeWhile isKeyChar
  if name = [] then none
  else (readSteps? (cs.dropWhile isKeyChar)).map (⟨String.ofList name, ·⟩)

/-! ### Assigning -/

/-- Assign at the last of some steps. -/
def assignSteps (v : Value) : Value → List PathStep → Value
  | _, [] => v
  | root, [.key name] => Value.assign name root v
  | root, .key name :: rest =>
    root.mapEntries fun es =>
      es.put name (assignSteps v ((es.get? name).getD .nil) rest)
  | root, .index i :: rest => root.mapItem i fun item => assignSteps v item rest

def assign (p : KeyPath) (root v : Value) : Value :=
  assignSteps v root (.key p.head :: p.rest)

/-- Assign at a key that may be a path; a key that is none stands for itself. -/
def assignKey (root : Value) (key : String) (v : Value) : Value :=
  match read? key with
  | some p => p.assign root v
  | none => Value.assign key root v

end KeyPath

end ScrollExport.Config
