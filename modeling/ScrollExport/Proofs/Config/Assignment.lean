import ScrollExport.Config.Path
import ScrollExport.Proofs.Config.Entries

/-!
# Assignments

An assignment at the end of some steps changes what one key stands for, and so on below it
(`assignSteps_cons`). Assignments whose paths part can be made in either order
(`Apart.assignSteps_comm`), and of two at one path the later one counts (`assignSteps_assignSteps`).
-/

namespace ScrollExport.Config

namespace Value

def isTable : Value → Bool
  | .table _ _ => true
  | _ => false

/-- The value at the end of some steps. -/
def at? : Value → List PathStep → Option Value
  | v, [] => some v
  | v, .key name :: rest => (v.get? name).bind (at? · rest)
  | v, .index i :: rest => v.items[position i v.items.length]?.bind (at? · rest)

/-! ### One key -/

/-- Change what a key stands for. A value that is no table becomes one. -/
def focus (name : String) (f : Option Value → Value) (root : Value) : Value :=
  root.mapEntries fun es => es.put name (f (es.get? name))

@[simp] lemma isTable_focus (name : String) (f : Option Value → Value) (root : Value) :
    (root.focus name f).isTable = true := by
  cases root <;> rfl

@[simp] lemma get?_focus (name key : String) (f : Option Value → Value) (root : Value) :
    (root.focus name f).get? key =
      if key = name then some (f (root.get? name)) else root.get? key := by
  cases root <;> simp [focus, mapEntries, get?, entries, Entries.get?]

lemma focus_focus (name : String) (f g : Option Value → Value) (root : Value) :
    (root.focus name f).focus name g = root.focus name fun old => g (some (f old)) := by
  cases root <;> simp [focus, mapEntries, Entries.put_put]

lemma focus_comm {name name' : String} (h : name ≠ name') (f g : Option Value → Value)
    (root : Value) :
    (root.focus name f).focus name' g = (root.focus name' g).focus name f := by
  cases root <;> simp [focus, mapEntries, h, h.symm, Entries.put_comm _ h]

/-- A value that is put in place of another one; a table goes over it, key by key. -/
def merged (v : Value) (old : Option Value) : Value :=
  match v with
  | .table _ es => assignAll (old.getD emptyTable) es
  | v => v

lemma assign_eq_focus (key : String) (root v : Value) :
    assign key root v = root.focus key (merged v) := by
  cases v <;> simp [assign, focus, merged]

lemma merged_of_isTable {v : Value} (h : v.isTable = false) (old : Option Value) :
    merged v old = v := by
  cases v with
  | table => cases h
  | _ => rfl

end Value

open Value

namespace KeyPath

/-! ### Steps -/

/-- What stands at the end of steps below a key. -/
def placed (v : Value) (steps : List PathStep) (old : Option Value) : Value :=
  match steps with
  | [] => merged v old
  | s :: rest => assignSteps v (old.getD .nil) (s :: rest)

lemma assignSteps_cons (v root : Value) (name : String) (rest : List PathStep) :
    assignSteps v root (.key name :: rest) = root.focus name (placed v rest) := by
  cases rest with
  | nil =>
    rw [assignSteps, assign_eq_focus]
    rfl
  | cons s rest =>
    rw [assignSteps]
    · rfl
    · simp

/-- What becomes a table anyway need not be one before. -/
lemma assignSteps_nil (v : Value) (name : String) (rest : List PathStep) :
    assignSteps v .nil (.key name :: rest) = assignSteps v .emptyTable (.key name :: rest) := by
  rw [assignSteps_cons, assignSteps_cons]
  rfl

/-! ### Paths that part -/

/-- Two paths that lead to different keys of one table. -/
inductive Apart : List PathStep → List PathStep → Prop where
  | here {name name' : String} {p q : List PathStep} (h : name ≠ name') :
    Apart (.key name :: p) (.key name' :: q)
  | there {name : String} {p q : List PathStep} (h : Apart p q) :
    Apart (.key name :: p) (.key name :: q)

namespace Apart

variable {p q : List PathStep}

lemma symm (h : Apart p q) : Apart q p := by
  induction h with
  | here h => exact .here h.symm
  | there _ ih => exact .there ih

lemma ne (h : Apart p q) : p ≠ q := by
  induction h with
  | here h => simp [h]
  | there _ ih => simpa using ih

lemma placed_left (h : Apart p q) (v : Value) (old : Option Value) :
    placed v p old = assignSteps v (old.getD .nil) p := by
  cases h <;> rfl

/-- Assignments at paths that part can be made in either order. -/
lemma assignSteps_comm (h : Apart p q) (v w root : Value) :
    assignSteps w (assignSteps v root p) q = assignSteps v (assignSteps w root q) p := by
  induction h generalizing root with
  | here h =>
    simp only [assignSteps_cons]
    exact focus_comm h _ _ root
  | there h ih =>
    simp only [assignSteps_cons, focus_focus, h.placed_left, h.symm.placed_left, Option.getD_some]
    refine congrArg (focus _ · root) (funext fun old => ?_)
    exact ih (old.getD .nil)

end Apart

/-! ### One path -/

/-- A path of keys. -/
def keys (names : List String) : List PathStep :=
  names.map .key

/-- The later one of two assignments at a path of keys counts. -/
lemma assignSteps_assignSteps {v : Value} (hv : v.isTable = false) (w root : Value)
    (name : String) (names : List String) :
    assignSteps v (assignSteps w root (keys (name :: names))) (keys (name :: names)) =
      assignSteps v root (keys (name :: names)) := by
  induction names generalizing name root with
  | nil =>
    simp only [keys, List.map_cons, List.map_nil, assignSteps_cons, focus_focus]
    refine congrArg (focus _ · root) (funext fun old => ?_)
    simp only [placed, merged_of_isTable hv]
  | cons name' names ih =>
    simp only [keys, List.map_cons, assignSteps_cons _ _ name, focus_focus] at ih ⊢
    refine congrArg (focus _ · root) (funext fun old => ?_)
    exact ih (old.getD .nil) name'

end KeyPath

end ScrollExport.Config
