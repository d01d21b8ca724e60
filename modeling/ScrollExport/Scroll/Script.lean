import ScrollExport.Scroll.Service

/-!
# Scripted services

A service that answers from a list, one answer for each page that is asked for, and records every
request. When the list is used up it fails.
-/

namespace ScrollExport.Script

/-- A request to the service. -/
inductive Call where
  | openScroll (index : String) (pageSize : Nat)
  | nextPage (cursor : Cursor) (keepAlive : String)
  | release (cursor : Cursor)
deriving DecidableEq, Repr

structure State where
  answers : List (Except String Page)
  calls : List Call

/-- The cause of a failure when no answer is left. -/
def exhausted : String := "script exhausted"

/-- Take the next answer and record the call that asked for it. -/
def answer (call : Call) (s : State) : Except String Page × State :=
  match s.answers with
  | [] => (.error exhausted, { s with calls := s.calls ++ [call] })
  | a :: rest => (a, ⟨rest, s.calls ++ [call]⟩)

theorem answers_length_answer_lt {call : Call} {s s' : State} {page : Page}
    (h : answer call s = (.ok page, s')) : s'.answers.length < s.answers.length := by
  obtain ⟨answers, calls⟩ := s
  cases answers with
  | nil => simp [answer] at h
  | cons a rest =>
    simp only [answer, Prod.mk.injEq] at h
    obtain ⟨-, rfl⟩ := h
    simp

/-- The service whose releases fail with `releaseFault`, if there is one. -/
def service (releaseFault : Option String) : Service State String where
  openScroll q index := answer (.openScroll index q.pageSize)
  nextPage cursor keepAlive := answer (.nextPage cursor keepAlive)
  release cursor s :=
    let s := { s with calls := s.calls ++ [.release cursor] }
    match releaseFault with
    | some cause => (.error cause, s)
    | none => (.ok (), s)
  budget s := s.answers.length
  budget_lt h _ := answers_length_answer_lt h

end ScrollExport.Script
