import Mathlib.Data.List.Induction
import Mathlib.Tactic.SplitIfs
import ScrollExport.Scroll.Memory

/-!
# Histories

What any number of clients ask of one service in memory, one request between any others, and what
it answers. The scrolls of a history are read off the requests and answers alone.
-/

namespace ScrollExport.Memory

/-! ### Requests and answers -/

/-- A request of some client. -/
inductive Step where
  | openScroll (q : Query) (index : String)
  | nextPage (cursor : Cursor) (keepAlive : String)
  | release (cursor : Cursor)

/-- A request that was made, and its answer. -/
inductive Event where
  | opened (q : Query) (index : String) (answer : Except Fault Page)
  | continued (cursor : Cursor) (answer : Except Fault Page)
  | released (cursor : Cursor)

def Step.perform (config : Config) (s : State) : Step → Event × State
  | .openScroll q index =>
    let (answer, s') := Memory.openScroll config q index s
    (.opened q index answer, s')
  | .nextPage cursor keepAlive =>
    let (answer, s') := Memory.nextPage config cursor keepAlive s
    (.continued cursor answer, s')
  | .release cursor => (.released cursor, (Memory.release cursor s).2)

/-- What happens to a new service, and its state after that. -/
def play (config : Config) (steps : List Step) : List Event × State :=
  steps.foldl
    (fun (events, s) step =>
      let (event, s') := step.perform config s
      (events ++ [event], s'))
    ([], .fresh)

lemma play_concat (config : Config) (steps : List Step) (step : Step) :
    play config (steps ++ [step]) =
      ((play config steps).1 ++ [(step.perform config (play config steps).2).1],
        (step.perform config (play config steps).2).2) := by
  simp [play, List.foldl_append]

/-! ### Scrolls of a history -/

/-- A scroll as its clients see it. -/
structure Scroll where
  query : Query
  index : String
  /-- The answer to the opening. -/
  first : Page
  /-- The answers to its continuations. -/
  further : List Page
  released : Bool

namespace Scroll

def pages (scroll : Scroll) : List Page :=
  scroll.first :: scroll.further

/-- The cursors that the scroll had, superseded ones too. -/
def cursors (scroll : Scroll) : List Cursor :=
  scroll.pages.map Page.cursor

/-- The latest cursor. -/
def cursor (scroll : Scroll) : Cursor :=
  (scroll.further.getLast?.getD scroll.first).cursor

/-- The scroll is not released, and this is its latest cursor. -/
def IsOpenAt (scroll : Scroll) (cursor : Cursor) : Prop :=
  scroll.released = false ∧ scroll.cursor = cursor

instance (scroll : Scroll) (cursor : Cursor) : Decidable (scroll.IsOpenAt cursor) :=
  inferInstanceAs (Decidable (_ ∧ _))

/-- The cursor is one that the scroll had, and no longer continues it. -/
def HasRetired (scroll : Scroll) (cursor : Cursor) : Prop :=
  cursor ∈ scroll.cursors ∧ ¬ scroll.IsOpenAt cursor

/-- A page comes to the scroll that is open at the cursor, and a release ends it. -/
def observe (scroll : Scroll) : Event → Scroll
  | .continued cursor (.ok page) =>
    if scroll.IsOpenAt cursor then { scroll with further := scroll.further ++ [page] } else scroll
  | .released cursor => if scroll.IsOpenAt cursor then { scroll with released := true } else scroll
  | _ => scroll

variable {scroll : Scroll} {cursor c : Cursor} {page : Page}

lemma cursor_mem_cursors (scroll : Scroll) : scroll.cursor ∈ scroll.cursors := by
  refine List.mem_map_of_mem ?_
  cases h : scroll.further.getLast? with
  | none => exact List.mem_cons_self ..
  | some page => exact List.mem_cons_of_mem _ (List.mem_of_getLast? h)

lemma IsOpenAt.mem_cursors (h : scroll.IsOpenAt cursor) : cursor ∈ scroll.cursors :=
  h.2 ▸ scroll.cursor_mem_cursors

/-- What was opened, and the first page of it. -/
def origin (scroll : Scroll) : Query × String × Page :=
  (scroll.query, scroll.index, scroll.first)

lemma origin_observe (scroll : Scroll) (event : Event) :
    (scroll.observe event).origin = scroll.origin := by
  cases event with
  | opened => rfl
  | continued cursor answer =>
    cases answer with
    | error => rfl
    | ok page =>
      simp only [observe]
      split_ifs <;> rfl
  | released cursor =>
    simp only [observe]
    split_ifs <;> rfl

lemma observe_continued (h : scroll.IsOpenAt cursor) :
    scroll.observe (.continued cursor (.ok page)) =
      { scroll with further := scroll.further ++ [page] } :=
  if_pos h

lemma observe_continued_of_not (h : ¬ scroll.IsOpenAt cursor) :
    scroll.observe (.continued cursor (.ok page)) = scroll :=
  if_neg h

lemma mem_cursors_continued :
    c ∈ (scroll.observe (.continued cursor (.ok page))).cursors ↔
      c ∈ scroll.cursors ∨ scroll.IsOpenAt cursor ∧ c = page.cursor := by
  simp only [observe]
  split_ifs with h
  · simp [h, cursors, pages, or_assoc]
  · simp [h]

lemma isOpenAt_continued :
    (scroll.observe (.continued cursor (.ok page))).IsOpenAt c ↔
      if scroll.IsOpenAt cursor then page.cursor = c else scroll.IsOpenAt c := by
  simp only [observe]
  split_ifs with h
  · simp [IsOpenAt, Scroll.cursor, h.1]
  · rfl

lemma observe_released : scroll.observe (.released cursor) =
    { scroll with released := scroll.released || decide (scroll.IsOpenAt cursor) } := by
  simp only [observe]
  split_ifs with h <;> simp [h]

lemma isOpenAt_released :
    (scroll.observe (.released cursor)).IsOpenAt c ↔ scroll.IsOpenAt c ∧ c ≠ cursor := by
  simp only [observe]
  split_ifs with h
  · constructor
    · intro hc
      cases hc.1
    · rintro ⟨hc, hne⟩
      exact absurd (hc.2.symm.trans h.2) hne
  · constructor
    · intro hc
      exact ⟨hc, fun he => h (he ▸ hc)⟩
    · exact And.left

/-- A cursor stays retired, as no later cursor of the scroll is one that it had. -/
lemma HasRetired.observe_continued (h : scroll.HasRetired c)
    (hp : page.cursor = cursor ∨ page.cursor ∉ scroll.cursors) :
    (scroll.observe (.continued cursor (.ok page))).HasRetired c := by
  refine ⟨mem_cursors_continued.2 (.inl h.1), ?_⟩
  rw [isOpenAt_continued]
  split_ifs with ho
  · rintro rfl
    rcases hp with rfl | hp
    · exact h.2 ho
    · exact hp h.1
  · exact h.2

lemma HasRetired.observe_released (h : scroll.HasRetired c) :
    (scroll.observe (.released cursor)).HasRetired c := by
  refine ⟨?_, fun ho => h.2 (isOpenAt_released.1 ho).1⟩
  rw [Scroll.observe_released]
  exact h.1

end Scroll

namespace Event

def origin? : Event → Option (Query × String × Page)
  | .opened q index (.ok page) => some (q, index, page)
  | _ => none

/-- The scroll that a request opened. -/
def scroll? (event : Event) : Option Scroll :=
  event.origin?.map fun (q, index, page) => ⟨q, index, page, [], false⟩

/-- The cursor that was made for the page of an answer. -/
def minted? (rotates : Bool) : Event → Option Cursor
  | .opened _ _ (.ok page) => some page.cursor
  | .continued _ (.ok page) => if rotates then some page.cursor else none
  | _ => none

def isContinuation : Event → Bool
  | .continued _ _ => true
  | _ => false

end Event

/-- The scrolls that were opened, in order, with all that came to them. -/
def scrolls (events : List Event) : List Scroll :=
  events.foldl (fun scrolls event => scrolls.map (·.observe event) ++ event.scroll?.toList) []

/-- The cursors of openings, and of continuations if they renew them, in order. -/
def minted (rotates : Bool) (events : List Event) : List Cursor :=
  events.filterMap (Event.minted? rotates)

lemma scrolls_concat (events : List Event) (event : Event) :
    scrolls (events ++ [event]) =
      (scrolls events).map (·.observe event) ++ event.scroll?.toList := by
  simp [scrolls, List.foldl_append]

/-- Every successful opening has its scroll. -/
lemma map_origin_scrolls (events : List Event) :
    (scrolls events).map Scroll.origin = events.filterMap Event.origin? := by
  induction events using List.reverseRecOn with
  | nil => rfl
  | append_singleton events event ih =>
    rw [scrolls_concat, List.map_append, List.map_map, List.filterMap_append, ← ih]
    congr 1
    · exact List.map_congr_left fun scroll _ => scroll.origin_observe event
    · rw [Event.scroll?, List.filterMap_cons]
      cases event.origin? <;> rfl

lemma scrolls_opened (events : List Event) (q : Query) (index : String) (page : Page) :
    scrolls (events ++ [.opened q index (.ok page)]) =
      scrolls events ++ [⟨q, index, page, [], false⟩] := by
  simp [scrolls_concat, Event.scroll?, Event.origin?, Scroll.observe]

lemma scrolls_continued (events : List Event) (cursor : Cursor) (page : Page) :
    scrolls (events ++ [.continued cursor (.ok page)]) =
      (scrolls events).map (·.observe (.continued cursor (.ok page))) :=
  (scrolls_concat ..).trans (List.append_nil _)

lemma scrolls_released (events : List Event) (cursor : Cursor) :
    scrolls (events ++ [.released cursor]) =
      (scrolls events).map (·.observe (.released cursor)) :=
  (scrolls_concat ..).trans (List.append_nil _)

/-- A request that fails is seen by no scroll. -/
lemma scrolls_failed {event : Event} (hs : ∀ scroll : Scroll, scroll.observe event = scroll)
    (ho : event.origin? = none) (events : List Event) :
    scrolls (events ++ [event]) = scrolls events := by
  simp [scrolls_concat, Event.scroll?, ho, hs]

lemma minted_concat (rotates : Bool) (events : List Event) (event : Event) :
    minted rotates (events ++ [event]) =
      minted rotates events ++ (event.minted? rotates).toList := by
  simp only [minted, List.filterMap_append, List.filterMap_cons, List.filterMap_nil]
  cases event.minted? rotates <;> rfl

lemma minted_opened (rotates : Bool) (events : List Event) (q : Query) (index : String)
    (page : Page) :
    minted rotates (events ++ [.opened q index (.ok page)]) =
      minted rotates events ++ [page.cursor] :=
  minted_concat ..

lemma minted_continued (rotates : Bool) (events : List Event) (cursor : Cursor) (page : Page) :
    minted rotates (events ++ [.continued cursor (.ok page)]) =
      minted rotates events ++ if rotates then [page.cursor] else [] := by
  rw [minted_concat, Event.minted?]
  split_ifs <;> rfl

/-- No cursor is made when no page is given. -/
lemma minted_of_eq_none {rotates : Bool} {event : Event} (h : event.minted? rotates = none)
    (events : List Event) : minted rotates (events ++ [event]) = minted rotates events := by
  rw [minted_concat, h]
  exact List.append_nil _

end ScrollExport.Memory
