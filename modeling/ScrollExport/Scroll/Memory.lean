import ScrollExport.Keyed
import ScrollExport.Number.Digits
import ScrollExport.Scroll.Service

/-!
# In-memory services

A service over records that are at hand. It cuts an index into pages when a scroll is opened, keeps
the pages that are still to come under the latest cursor, and can give every page a cursor of its
own. It can be told to fail one continuation.
-/

namespace ScrollExport.Memory

open Number

/-- The indices that a service holds, and how it behaves. -/
structure Config where
  indices : List (String × List Record)
  /-- Every page has a new cursor, and the one before is stale. -/
  rotates : Bool
  /-- Which continuation fails, counted from one. -/
  failsOn : Option Nat

/-- An open scroll: the pages still to come, and the number of its records. -/
structure Context where
  pending : List (List Record)
  total : Nat

structure State where
  contexts : List (Cursor × Context)
  /-- How many cursors were handed out. -/
  generation : Nat
  /-- How many continuations were asked for. -/
  requests : Nat
  submitted : List Cursor
  released : List Cursor

def State.fresh : State :=
  ⟨[], 0, 0, [], []⟩

/-- Why a request to the service failed. -/
inductive Fault where
  | unknownIndex (index : String)
  | unknownCursor (cursor : Cursor)
  | injected (request : Nat)
deriving DecidableEq, Repr

def Fault.message : Fault → String
  | .unknownIndex index => "Unknown Index: " ++ index
  | .unknownCursor cursor => "Unknown Or Stale Scroll Id: " ++ cursor
  | .injected request => "Injected Failure on scroll request #" ++ natText request

/-! ### Pages and cursors -/

/-- Cut a list into pieces of `n`, the last one possibly shorter. -/
def chunks {α : Type} (n : Nat) (xs : List α) : List (List α) :=
  if _h : n = 0 ∨ xs = [] then [] else xs.take n :: chunks n (xs.drop n)
termination_by xs.length
decreasing_by
  have := List.length_pos_iff.2 (not_or.1 _h).2
  simp only [List.length_drop]
  omega

/-- The cursor of a generation. -/
def cursorOf (index : String) (generation : Nat) : Cursor :=
  index ++ "-" ++ natText generation

/-- The part of a cursor before its last dash. -/
def indexOf (cursor : Cursor) : String :=
  String.ofList ((cursor.toList.reverse.dropWhile (· ≠ '-')).drop 1).reverse

/-! ### Requests -/

def openScroll (config : Config) (q : Query) (index : String) (s : State) :
    Except Fault Page × State :=
  match Keyed.get? config.indices index with
  | none => (.error (.unknownIndex index), s)
  | some records =>
    let pages := chunks q.pageSize records
    let generation := s.generation + 1
    let cursor := cursorOf index generation
    let context : Context := ⟨pages.tail, records.length⟩
    (.ok ⟨cursor, some records.length, pages.head?.getD []⟩,
      { s with generation, contexts := Keyed.put s.contexts cursor context })

def nextPage (config : Config) (cursor : Cursor) (_keepAlive : String) (s : State) :
    Except Fault Page × State :=
  let s := { s with requests := s.requests + 1, submitted := s.submitted ++ [cursor] }
  if config.failsOn = some s.requests then (.error (.injected s.requests), s)
  else
    match Keyed.get? s.contexts cursor with
    | none => (.error (.unknownCursor cursor), s)
    | some context =>
      let generation := if config.rotates then s.generation + 1 else s.generation
      let next := if config.rotates then cursorOf (indexOf cursor) generation else cursor
      let rest : Context := { context with pending := context.pending.tail }
      (.ok ⟨next, some context.total, context.pending.head?.getD []⟩,
        { s with generation, contexts := Keyed.put (Keyed.erase s.contexts cursor) next rest })

def release (cursor : Cursor) (s : State) : Except Fault Unit × State :=
  (.ok (), { s with
    released := s.released ++ [cursor]
    contexts := Keyed.erase s.contexts cursor })

/-! ### Budget -/

/-- How many pages the open scrolls have still to serve. -/
def pendingPages (contexts : List (Cursor × Context)) : Nat :=
  contexts.foldr (fun kv pages => kv.2.pending.length + pages) 0

theorem pendingPages_put_le (contexts : List (Cursor × Context)) (cursor : Cursor)
    (c : Context) :
    pendingPages (Keyed.put contexts cursor c) ≤ pendingPages contexts + c.pending.length := by
  induction contexts with
  | nil => simp [pendingPages, Keyed.put]
  | cons kv rest ih =>
    obtain ⟨k, c'⟩ := kv
    simp only [Keyed.put]
    split <;> simp only [pendingPages, List.foldr_cons] at ih ⊢ <;> omega

theorem pendingPages_erase_le (contexts : List (Cursor × Context)) (cursor : Cursor) :
    pendingPages (Keyed.erase contexts cursor) ≤ pendingPages contexts := by
  induction contexts with
  | nil => simp [pendingPages, Keyed.erase]
  | cons kv rest ih =>
    obtain ⟨k, c'⟩ := kv
    simp only [pendingPages, Keyed.erase, List.filter_cons] at ih ⊢
    split <;> simp only [List.foldr_cons] <;> omega

theorem pendingPages_erase_add_le {contexts : List (Cursor × Context)} {cursor : Cursor}
    {c : Context} (h : Keyed.get? contexts cursor = some c) :
    pendingPages (Keyed.erase contexts cursor) + c.pending.length ≤ pendingPages contexts := by
  induction contexts with
  | nil => simp at h
  | cons kv rest ih =>
    obtain ⟨k, c'⟩ := kv
    rw [Keyed.get?_cons] at h
    split at h
    · rename_i hk
      obtain rfl := Option.some.inj h
      have := pendingPages_erase_le rest cursor
      have hk' : decide (k ≠ cursor) = false := by simpa using hk.symm
      simp only [pendingPages, Keyed.erase, List.filter_cons, hk', Bool.false_eq_true, if_false,
        List.foldr_cons] at this ⊢
      omega
    · rename_i hk
      have := ih h
      have hk' : (decide (k ≠ cursor)) = true := by simpa using fun e => hk e.symm
      simp only [pendingPages, Keyed.erase, List.filter_cons, hk', if_true,
        List.foldr_cons] at this ⊢
      omega

theorem pendingPages_nextPage_lt {config : Config} {cursor : Cursor} {keepAlive : String}
    {s s' : State} {page : Page} (h : nextPage config cursor keepAlive s = (.ok page, s'))
    (hp : page.isEmpty = false) : pendingPages s'.contexts < pendingPages s.contexts := by
  simp only [nextPage] at h
  split at h
  · simp at h
  · split at h
    · simp at h
    · rename_i context hc
      simp only [Prod.mk.injEq, Except.ok.injEq] at h
      obtain ⟨rfl, rfl⟩ := h
      have hne : context.pending ≠ [] := by
        rintro he
        simp [Page.isEmpty, he] at hp
      have h₁ := pendingPages_erase_add_le hc
      have h₂ := List.length_pos_iff.2 hne
      refine Nat.lt_of_le_of_lt (pendingPages_put_le _ _ _) ?_
      simp only [List.length_tail]
      omega

def service (config : Config) : Service State Fault where
  openScroll := openScroll config
  nextPage := nextPage config
  release := release
  budget s := pendingPages s.contexts
  budget_lt := pendingPages_nextPage_lt

end ScrollExport.Memory
