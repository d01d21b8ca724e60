import Mathlib.Data.List.Pairwise
import ScrollExport.Proofs.Scroll.History
import ScrollExport.Proofs.Scroll.Paging

/-!
# Interleavings

After every history the state of a service agrees with the scrolls of it (`Agrees`): a cursor names
at most one scroll (`Named`), and the service remembers of every open scroll what it has not yet
given.
-/

namespace ScrollExport.Memory

open Number

/-! ### Pages of a scroll -/

section Pages

variable {α : Type} {n : Nat} {xs : List α}

/-- The first `count` pages of a list in pieces of `n`; after its end the pages are empty. -/
def firstPages (n : Nat) (xs : List α) (count : Nat) : List (List α) :=
  (chunks n xs).take count ++ List.replicate (count - (chunks n xs).length) []

lemma firstPages_zero (n : Nat) (xs : List α) : firstPages n xs 0 = [] := by
  rw [firstPages, List.take_zero, Nat.zero_sub]
  rfl

lemma firstPages_succ (n : Nat) (xs : List α) (count : Nat) :
    firstPages n xs (count + 1) =
      firstPages n xs count ++ [((chunks n xs).drop count).head?.getD []] := by
  unfold firstPages
  rw [List.take_add_one, List.head?_drop]
  by_cases h : count < (chunks n xs).length
  · rw [Nat.sub_eq_zero_of_le h, Nat.sub_eq_zero_of_le h.le, List.getElem?_eq_getElem h]
    simp
  · rw [Nat.not_lt] at h
    rw [List.getElem?_eq_none h, Nat.succ_sub h, List.replicate_succ']
    simp

lemma flatten_firstPages (hn : 0 < n) (xs : List α) (count : Nat) :
    (firstPages n xs count).flatten ++ ((chunks n xs).drop count).flatten = xs := by
  rw [firstPages, List.flatten_append, List.flatten_replicate_nil, List.append_nil,
    ← List.flatten_append, List.take_append_drop, flatten_chunks hn]

/-- Only the last piece can be shorter than `n`. -/
lemma length_of_mem_dropLast_chunks {count : Nat} {piece : List α}
    (h : piece ∈ ((chunks n xs).take count).dropLast) : piece.length = n := by
  fun_induction chunks n xs generalizing count with
  | case1 => simp at h
  | case2 xs hx ih =>
    cases count with
    | zero => simp at h
    | succ count =>
      rw [List.take_succ_cons] at h
      by_cases hc : (chunks n (xs.drop n)).take count = []
      · simp [hc] at h
      · rw [List.dropLast_cons_of_ne_nil hc] at h
        rcases List.mem_cons.1 h with rfl | h
        · -- there is a piece after this one, so the list is longer than `n`
          have hd : xs.drop n ≠ [] := by
            intro hd
            rw [hd] at hc
            simp [chunks] at hc
          have hl := List.length_pos_iff.2 hd
          rw [List.length_drop] at hl
          rw [List.length_take]
          omega
        · exact ih h

end Pages

/-! ### Cursors -/

lemma natChars_injective : Function.Injective natChars := by
  intro m n h
  have hd : Nat.ofDigitChars 10 (natChars m) 0 = Nat.ofDigitChars 10 (natChars n) 0 := by rw [h]
  simpa [natChars, Nat.ofDigitChars_ten_toDigits] using hd

/-- No two generations share a cursor, whatever the indices are called. -/
lemma generation_of_cursorOf_eq {index index' : String} {g g' : Nat}
    (h : cursorOf index g = cursorOf index' g') : g = g' := by
  have hi : index = index' := by
    rw [← indexOf_cursorOf index g, h, indexOf_cursorOf]
  subst hi
  have hl := congrArg String.toList h
  simp only [cursorOf, natText, String.toList_append, List.append_cancel_left_eq] at hl
  exact natChars_injective (by simpa using hl)

/-- The cursors are distinct, and of generations up to this one. -/
structure Numbered (generation : Nat) (cursors : List Cursor) : Prop where
  nodup : cursors.Nodup
  exists_generation : ∀ cursor ∈ cursors, ∃ index, ∃ g ≤ generation, cursor = cursorOf index g

namespace Numbered

variable {generation : Nat} {cursors : List Cursor}

/-- A cursor of the next generation is new. -/
lemma notMem (h : Numbered generation cursors) (index : String) :
    cursorOf index (generation + 1) ∉ cursors := by
  intro hm
  obtain ⟨index', g, hg, he⟩ := h.exists_generation _ hm
  have := generation_of_cursorOf_eq he
  omega

lemma concat (h : Numbered generation cursors) (index : String) :
    Numbered (generation + 1) (cursors ++ [cursorOf index (generation + 1)]) where
  nodup := by
    rw [← List.concat_eq_append, List.nodup_concat]
    exact ⟨h.notMem index, h.nodup⟩
  exists_generation := by
    rw [List.forall_mem_append, List.forall_mem_singleton]
    constructor
    · intro cursor hc
      obtain ⟨index', g, hg, rfl⟩ := h.exists_generation cursor hc
      exact ⟨index', g, Nat.le_succ_of_le hg, rfl⟩
    · exact ⟨index, generation + 1, le_rfl, rfl⟩

end Numbered

/-! ### Answers -/

/-- A continuation is counted and fails, or goes on with the scroll that is filed under its
cursor. -/
lemma nextPage_cases (config : Config) (cursor : Cursor) (keepAlive : String) (s : State) :
    (∃ fault, (config.failsOn = some (s.requests + 1) ∨ Keyed.get? s.contexts cursor = none) ∧
        nextPage config cursor keepAlive s = (.error fault, s.asked cursor)) ∨
      ∃ context page s', config.failsOn ≠ some (s.requests + 1) ∧
        Keyed.get? s.contexts cursor = some context ∧
        nextPage config cursor keepAlive s = (.ok page, s') ∧
        page.cursor = config.nextCursor cursor s := by
  by_cases hf : config.failsOn = some (s.requests + 1)
  · exact .inl ⟨_, .inl hf, nextPage_of_failsOn hf cursor keepAlive⟩
  · cases hc : Keyed.get? s.contexts cursor with
    | none => exact .inl ⟨_, .inr rfl, nextPage_of_get?_eq_none hf hc keepAlive⟩
    | some context =>
      exact .inr ⟨context, _, _, hf, rfl, nextPage_of_get? hf hc keepAlive, rfl⟩

section Answers

variable {config : Config} {s : State} {cursor : Cursor} {keepAlive : String} {fault : Fault}

lemma cursor_of_nextPage {page : Page}
    (h : (nextPage config cursor keepAlive s).1 = .ok page) :
    page.cursor = config.nextCursor cursor s := by
  rcases nextPage_cases config cursor keepAlive s with ⟨_, -, hn⟩ | ⟨_, _, _, -, -, hn, hp⟩
  · rw [hn] at h
    cases h
  · rw [hn] at h
    rw [← Except.ok.inj h, hp]

lemma nextPage_of_error (h : (nextPage config cursor keepAlive s).1 = .error fault) :
    (nextPage config cursor keepAlive s).2 = s.asked cursor := by
  rcases nextPage_cases config cursor keepAlive s with ⟨_, -, hn⟩ | ⟨_, _, _, -, -, hn, -⟩
  · rw [hn]
  · rw [hn] at h
    cases h

lemma openScroll_of_error {q : Query} {index : String}
    (h : (openScroll config q index s).1 = .error fault) :
    (openScroll config q index s).2 = s := by
  cases hi : Keyed.get? config.indices index with
  | none => rw [openScroll_of_get?_eq_none hi]
  | some records =>
    rw [openScroll_of_get? hi] at h
    cases h

end Answers

/-! ### Names of scrolls -/

/-- The cursors of a history tell its scrolls apart. -/
structure Named (config : Config) (events : List Event) (s : State) : Prop where
  numbered : Numbered s.generation (minted config.rotates events)
  cursors : ∀ scroll ∈ scrolls events, ∀ cursor ∈ scroll.cursors,
    cursor ∈ minted config.rotates events
  disjoint : (scrolls events).Pairwise fun a b => a.cursors.Disjoint b.cursors

variable {config : Config} {events : List Event} {s s' : State} {a b : Scroll} {cursor : Cursor}
  {page : Page}

namespace Named

lemma fresh (config : Config) : Named config [] .fresh where
  numbered := ⟨List.nodup_nil, by simp [minted]⟩
  cursors := by simp [scrolls]
  disjoint := List.Pairwise.nil

lemma mem_minted (h : Named config events s) (ha : a ∈ scrolls events)
    (hoa : a.IsOpenAt cursor) : cursor ∈ minted config.rotates events :=
  h.cursors a ha cursor hoa.mem_cursors

/-- A cursor belongs to one scroll. -/
lemma eq_of_mem_cursors (h : Named config events s) (ha : a ∈ scrolls events)
    (hb : b ∈ scrolls events) (hca : cursor ∈ a.cursors) (hcb : cursor ∈ b.cursors) : a = b := by
  by_contra hne
  have hs : Std.Symm fun a b : Scroll => a.cursors.Disjoint b.cursors :=
    ⟨fun _ _ hd => hd.symm⟩
  exact h.disjoint.forall ha hb hne hca hcb

lemma eq_of_isOpenAt (h : Named config events s) (ha : a ∈ scrolls events)
    (hb : b ∈ scrolls events) (hoa : a.IsOpenAt cursor) (hob : b.IsOpenAt cursor) : a = b :=
  h.eq_of_mem_cursors ha hb hoa.mem_cursors hob.mem_cursors

/-- The cursor that a scroll goes on with is its own, or new. -/
lemma nextCursor_eq_or_notMem (h : Named config events s) (cursor : Cursor) :
    config.nextCursor cursor s = cursor ∨
      config.nextCursor cursor s ∉ minted config.rotates events := by
  unfold Config.nextCursor
  split_ifs
  · exact .inr (h.numbered.notMem _)
  · exact .inl rfl

/-- No scroll but the one that goes on has the cursor it goes on with. -/
lemma nextCursor_notMem_cursors (h : Named config events s) (ha : a ∈ scrolls events)
    (hb : b ∈ scrolls events) (hoa : a.IsOpenAt cursor) (hob : ¬ b.IsOpenAt cursor) :
    config.nextCursor cursor s ∉ b.cursors := by
  intro hc
  rcases h.nextCursor_eq_or_notMem cursor with he | hn
  · rw [he] at hc
    have hba : b = a := h.eq_of_mem_cursors hb ha hc hoa.mem_cursors
    exact hob (hba ▸ hoa)
  · exact hn (h.cursors b hb _ hc)

/-- What no scroll sees gives no names. -/
lemma unseen (h : Named config events s) {event : Event}
    (hs : scrolls (events ++ [event]) = scrolls events)
    (hm : event.minted? config.rotates = none) (hg : s'.generation = s.generation) :
    Named config (events ++ [event]) s' := by
  have hminted := minted_of_eq_none hm events
  constructor
  · rw [hminted, hg]
    exact h.numbered
  · rw [hs, hminted]
    exact h.cursors
  · rw [hs]
    exact h.disjoint

/-- The cursor of a new scroll is none that a scroll had. -/
lemma opened (h : Named config events s) {q : Query} {index : String}
    (hp : page.cursor = cursorOf index (s.generation + 1))
    (hg : s'.generation = s.generation + 1) :
    Named config (events ++ [.opened q index (.ok page)]) s' := by
  constructor
  · rw [minted_opened, hg, hp]
    exact h.numbered.concat index
  · rw [scrolls_opened, minted_opened, List.forall_mem_append, List.forall_mem_singleton]
    constructor
    · exact fun a ha c hc => List.mem_append_left _ (h.cursors a ha c hc)
    · exact fun c hc => List.mem_append_right _ hc
  · rw [scrolls_opened, List.pairwise_append]
    refine ⟨h.disjoint, List.pairwise_singleton _ _, ?_⟩
    intro a ha b hb c hca hcb
    obtain rfl := List.mem_singleton.1 hb
    obtain rfl := List.mem_singleton.1 hcb
    exact h.numbered.notMem index (hp ▸ h.cursors a ha _ hca)

lemma numbered_continued (h : Named config events s)
    (hp : page.cursor = config.nextCursor cursor s) :
    Numbered (config.nextGeneration s)
      (minted config.rotates (events ++ [.continued cursor (.ok page)])) := by
  rw [minted_continued, hp, Config.nextGeneration, Config.nextCursor]
  split_ifs
  · exact h.numbered.concat _
  · rw [List.append_nil]
    exact h.numbered

/-- A cursor that is renewed is one that was made, and one that is not was made before. -/
lemma mem_minted_continued (h : Named config events s) (ha : a ∈ scrolls events)
    (hoa : a.IsOpenAt cursor) (hp : page.cursor = config.nextCursor cursor s) :
    page.cursor ∈ minted config.rotates (events ++ [.continued cursor (.ok page)]) := by
  rw [minted_continued]
  split_ifs with hr
  · exact List.mem_append_right _ (List.mem_singleton_self _)
  · rw [List.append_nil, hp, Config.nextCursor, if_neg hr]
    exact h.mem_minted ha hoa

/-- The scroll that goes on gets a cursor that no other scroll had. -/
lemma continued (h : Named config events s) (ha : a ∈ scrolls events) (hoa : a.IsOpenAt cursor)
    (hp : page.cursor = config.nextCursor cursor s)
    (hg : s'.generation = config.nextGeneration s) :
    Named config (events ++ [.continued cursor (.ok page)]) s' := by
  have hforeign : ∀ b ∈ scrolls events, ¬ b.IsOpenAt cursor → page.cursor ∉ b.cursors :=
    fun b hb hob => hp ▸ h.nextCursor_notMem_cursors ha hb hoa hob
  constructor
  · rw [hg]
    exact h.numbered_continued hp
  · rw [scrolls_continued, List.forall_mem_map]
    intro b hb c hc
    rcases Scroll.mem_cursors_continued.1 hc with hc | ⟨-, rfl⟩
    · rw [minted_continued]
      exact List.mem_append_left _ (h.cursors b hb c hc)
    · exact h.mem_minted_continued ha hoa hp
  · rw [scrolls_continued, List.pairwise_map]
    refine h.disjoint.imp_of_mem ?_
    intro b b' hb hb' hd c hc hc'
    have hboth : b.IsOpenAt cursor → ¬ b'.IsOpenAt cursor := fun hob hob' =>
      hd hob.mem_cursors hob'.mem_cursors
    rcases Scroll.mem_cursors_continued.1 hc with hc | ⟨hob, rfl⟩
    · rcases Scroll.mem_cursors_continued.1 hc' with hc' | ⟨hob', rfl⟩
      · exact hd hc hc'
      · exact hforeign b hb (fun hob => hboth hob hob') hc
    · rcases Scroll.mem_cursors_continued.1 hc' with hc' | ⟨hob', -⟩
      · exact hforeign b' hb' (hboth hob) hc'
      · exact hboth hob hob'

/-- A release takes no cursor from a scroll. -/
lemma released (h : Named config events s) (cursor : Cursor) (hg : s'.generation = s.generation) :
    Named config (events ++ [.released cursor]) s' := by
  have hminted : minted config.rotates (events ++ [.released cursor]) =
      minted config.rotates events := minted_of_eq_none rfl events
  constructor
  · rw [hminted, hg]
    exact h.numbered
  · rw [scrolls_released, hminted, List.forall_mem_map]
    intro b hb
    rw [Scroll.observe_released]
    exact h.cursors b hb
  · rw [scrolls_released, List.pairwise_map]
    simp only [Scroll.observe_released]
    exact h.disjoint

end Named

/-! ### Agreement of service and history -/

/-- What the service remembers of a scroll that is open: the pages that it has not given. -/
def Scroll.context (config : Config) (scroll : Scroll) : Context :=
  ⟨(chunks scroll.query.pageSize (config.records scroll.index)).drop scroll.pages.length,
    (config.records scroll.index).length⟩

lemma Scroll.context_continued (hoa : a.IsOpenAt cursor) :
    (a.observe (.continued cursor (.ok page))).context config =
      ⟨(a.context config).pending.tail, (a.context config).total⟩ := by
  rw [observe_continued hoa]
  simp [context, pages, List.tail_drop]

lemma Scroll.context_released :
    (a.observe (.released cursor)).context config = a.context config := by
  rw [observe_released]
  rfl

/-- The state of a service agrees with what happened to it. -/
structure Agrees (config : Config) (events : List Event) (s : State) : Prop
    extends Named config events s where
  requests : s.requests = events.countP Event.isContinuation
  keys : (s.contexts.map Prod.fst).Nodup
  contexts : ∀ cursor context, Keyed.get? s.contexts cursor = some context ↔
    ∃ scroll ∈ scrolls events, scroll.IsOpenAt cursor ∧ context = scroll.context config
  pages : ∀ scroll ∈ scrolls events, scroll.pages.map Page.records =
    firstPages scroll.query.pageSize (config.records scroll.index) scroll.pages.length

namespace Agrees

lemma fresh (config : Config) : Agrees config [] .fresh where
  toNamed := Named.fresh config
  requests := rfl
  keys := List.nodup_nil
  contexts := by simp [scrolls, State.fresh]
  pages := by simp [scrolls]

/-! #### Openings -/

/-- The context of a new scroll is added, the others stay. -/
lemma contexts_opened (h : Agrees config events s) (q : Query) {index : String}
    (hp : page.cursor = cursorOf index (s.generation + 1)) (c : Cursor) (context : Context) :
    Keyed.get? (Keyed.put s.contexts page.cursor
        (Scroll.context config ⟨q, index, page, [], false⟩)) c = some context ↔
      ∃ b ∈ scrolls (events ++ [.opened q index (.ok page)]),
        b.IsOpenAt c ∧ context = b.context config := by
  let scroll : Scroll := ⟨q, index, page, [], false⟩
  rw [scrolls_opened, Keyed.get?_put]
  by_cases hc : c = page.cursor
  · subst hc
    rw [if_pos rfl]
    constructor
    · intro he
      exact ⟨scroll, List.mem_append_right _ (List.mem_singleton_self _), ⟨rfl, rfl⟩,
        (Option.some.inj he).symm⟩
    · rintro ⟨b, hb, hob, rfl⟩
      rcases List.mem_append.1 hb with hb | hb
      · exact absurd (hp ▸ h.mem_minted hb hob) (h.numbered.notMem index)
      · rw [List.mem_singleton.1 hb]
  · have hs : ¬ scroll.IsOpenAt c := fun hos => hc hos.2.symm
    rw [if_neg hc, h.contexts]
    simp only [List.mem_append, List.mem_singleton, or_and_right, exists_or, exists_eq_left]
    exact (or_iff_left fun hos => hs hos.1).symm

/-- A scroll that is opened has a new cursor, and all of its pages but the first are to come. -/
lemma opened_of_get? (h : Agrees config events s) (q : Query) {index : String}
    {records : List Record} (hi : Keyed.get? config.indices index = some records) :
    Agrees config (events ++ [.opened q index (openScroll config q index s).1])
      (openScroll config q index s).2 := by
  let pieces := chunks q.pageSize records
  let page : Page :=
    ⟨cursorOf index (s.generation + 1), some records.length, pieces.head?.getD []⟩
  have hp : page.cursor = cursorOf index (s.generation + 1) := rfl
  have hrecords : config.records index = records := by simp [Config.records, hi]
  have hcontext : Scroll.context config ⟨q, index, page, [], false⟩ =
      ⟨pieces.tail, records.length⟩ := by
    simp [Scroll.context, Scroll.pages, hrecords, pieces]
  rw [openScroll_of_get? hi]
  refine ⟨h.toNamed.opened hp rfl, ?_, Keyed.nodup_put h.keys _ _, ?_, ?_⟩
  · simp [h.requests, Event.isContinuation]
  · exact hcontext ▸ h.contexts_opened q hp
  · rw [scrolls_opened, List.forall_mem_append, List.forall_mem_singleton]
    refine ⟨h.pages, ?_⟩
    show [_] = firstPages q.pageSize (config.records index) (0 + 1)
    rw [firstPages_succ, firstPages_zero, List.drop_zero, hrecords]
    rfl

/-- What no scroll sees leaves the service as it is. -/
lemma unseen (h : Agrees config events s) {event : Event}
    (hs : scrolls (events ++ [event]) = scrolls events)
    (hm : event.minted? config.rotates = none)
    (hr : s'.requests = (events ++ [event]).countP Event.isContinuation)
    (hg : s'.generation = s.generation) (hc : s'.contexts = s.contexts) :
    Agrees config (events ++ [event]) s' := by
  refine ⟨h.toNamed.unseen hs hm hg, hr, ?_, ?_, ?_⟩
  · rw [hc]
    exact h.keys
  · rw [hs, hc]
    exact h.contexts
  · rw [hs]
    exact h.pages

lemma opened (h : Agrees config events s) (q : Query) (index : String) :
    Agrees config (events ++ [.opened q index (openScroll config q index s).1])
      (openScroll config q index s).2 := by
  cases hi : Keyed.get? config.indices index with
  | none =>
    rw [openScroll_of_get?_eq_none hi]
    refine h.unseen (scrolls_failed (fun _ => rfl) rfl events) rfl ?_ rfl rfl
    simp [h.requests, Event.isContinuation]
  | some records => exact h.opened_of_get? q hi

/-! #### Continuations -/

/-- The context of the scroll that goes on moves to the new cursor, the others stay. -/
lemma contexts_continued (h : Agrees config events s) (ha : a ∈ scrolls events)
    (hoa : a.IsOpenAt cursor) (hp : page.cursor = config.nextCursor cursor s) (c : Cursor)
    (context : Context) :
    Keyed.get? (Keyed.put (Keyed.erase s.contexts cursor) page.cursor
        ⟨(a.context config).pending.tail, (a.context config).total⟩) c = some context ↔
      ∃ b ∈ scrolls (events ++ [.continued cursor (.ok page)]),
        b.IsOpenAt c ∧ context = b.context config := by
  rw [scrolls_continued, Keyed.get?_put, Keyed.get?_erase]
  simp only [List.mem_map, exists_exists_and_eq_and, Scroll.isOpenAt_continued]
  by_cases hn : c = page.cursor
  · subst hn
    rw [if_pos rfl]
    constructor
    · intro he
      exact ⟨a, ha, by rw [if_pos hoa], by rw [Scroll.context_continued hoa, Option.some.inj he]⟩
    · rintro ⟨b, hb, hob', rfl⟩
      have hob : b.IsOpenAt cursor := by
        by_contra hob
        rw [if_neg hob] at hob'
        exact h.nextCursor_notMem_cursors ha hb hoa hob (hp ▸ hob'.mem_cursors)
      rw [h.eq_of_isOpenAt hb ha hob hoa, Scroll.context_continued hoa]
  · rw [if_neg hn]
    split_ifs with hc
    · constructor
      · intro he
        cases he
      · rintro ⟨b, hb, hob', -⟩
        split_ifs at hob' with hob
        · exact absurd hob'.symm hn
        · exact absurd (hc ▸ hob') hob
    · rw [h.contexts]
      constructor
      · rintro ⟨b, hb, hob', rfl⟩
        have hob : ¬ b.IsOpenAt cursor := fun hob => hc (hob'.2.symm.trans hob.2)
        exact ⟨b, hb, by rwa [if_neg hob], by rw [Scroll.observe_continued_of_not hob]⟩
      · rintro ⟨b, hb, hob', rfl⟩
        split_ifs at hob' with hob
        · exact absurd hob'.symm hn
        · exact ⟨b, hb, hob', by rw [Scroll.observe_continued_of_not hob]⟩

/-- The scroll that is open at the cursor goes on, and the others stay as they are. -/
lemma continued_of_isOpenAt (h : Agrees config events s) (ha : a ∈ scrolls events)
    (hoa : a.IsOpenAt cursor) (hf : config.failsOn ≠ some (s.requests + 1))
    (keepAlive : String) :
    Agrees config (events ++ [.continued cursor (nextPage config cursor keepAlive s).1])
      (nextPage config cursor keepAlive s).2 := by
  let context := a.context config
  have hc : Keyed.get? s.contexts cursor = some context :=
    (h.contexts cursor context).2 ⟨a, ha, hoa, rfl⟩
  let page : Page :=
    ⟨config.nextCursor cursor s, some context.total, context.pending.head?.getD []⟩
  have hp : page.cursor = config.nextCursor cursor s := rfl
  rw [nextPage_of_get? hf hc]
  refine ⟨?_, ?_, Keyed.nodup_put (Keyed.nodup_erase h.keys cursor) _ _, ?_, ?_⟩
  · exact h.toNamed.continued ha hoa hp rfl
  · simp [h.requests, Event.isContinuation, State.asked]
  · exact h.contexts_continued ha hoa hp
  · rw [scrolls_continued, List.forall_mem_map]
    intro b hb
    by_cases hob : b.IsOpenAt cursor
    · obtain rfl := h.eq_of_isOpenAt hb ha hob hoa
      rw [Scroll.observe_continued hob]
      show (b.pages ++ [page]).map Page.records =
        firstPages b.query.pageSize (config.records b.index) (b.pages ++ [page]).length
      rw [List.length_append, List.length_singleton, firstPages_succ, ← h.pages b hb,
        List.map_append]
      rfl
    · rw [Scroll.observe_continued_of_not hob]
      exact h.pages b hb

lemma continued (h : Agrees config events s) (cursor : Cursor) (keepAlive : String) :
    Agrees config (events ++ [.continued cursor (nextPage config cursor keepAlive s).1])
      (nextPage config cursor keepAlive s).2 := by
  rcases nextPage_cases config cursor keepAlive s with ⟨_, -, hn⟩ | ⟨context, _, _, hf, hc, -, -⟩
  · rw [hn]
    refine h.unseen (scrolls_failed (fun _ => rfl) rfl events) rfl ?_ rfl rfl
    simp [h.requests, Event.isContinuation, State.asked]
  · obtain ⟨a, ha, hoa, -⟩ := (h.contexts cursor context).1 hc
    exact h.continued_of_isOpenAt ha hoa hf keepAlive

/-! #### Releases -/

lemma released (h : Agrees config events s) (cursor : Cursor) :
    Agrees config (events ++ [.released cursor]) (release cursor s).2 := by
  refine ⟨h.toNamed.released cursor rfl, ?_, Keyed.nodup_erase h.keys cursor, ?_, ?_⟩
  · simp [release, h.requests, Event.isContinuation]
  · intro c context
    rw [scrolls_released, release, Keyed.get?_erase]
    simp only [List.mem_map, exists_exists_and_eq_and, Scroll.isOpenAt_released,
      Scroll.context_released]
    by_cases hc : c = cursor
    · simp [hc]
    · simp [hc, h.contexts]
  · rw [scrolls_released, List.forall_mem_map]
    intro b hb
    rw [Scroll.observe_released]
    exact h.pages b hb

/-! #### Answers -/

/-- A continuation is answered at the cursors of open scrolls, except when it is to fail. -/
lemma exists_nextPage_eq_ok_iff (h : Agrees config events s) (cursor : Cursor)
    (keepAlive : String) :
    (∃ page, (nextPage config cursor keepAlive s).1 = .ok page) ↔
      config.failsOn ≠ some (events.countP Event.isContinuation + 1) ∧
        ∃ scroll ∈ scrolls events, scroll.IsOpenAt cursor := by
  rw [← h.requests]
  rcases nextPage_cases config cursor keepAlive s with
    ⟨_, hc, hn⟩ | ⟨context, page, _, hf, hc, hn, -⟩
  · rw [hn]
    constructor
    · rintro ⟨page, hp⟩
      cases hp
    · rintro ⟨hf, a, ha, hoa⟩
      rw [(h.contexts cursor _).2 ⟨a, ha, hoa, rfl⟩] at hc
      cases hc.resolve_left hf
  · obtain ⟨a, ha, hoa, -⟩ := (h.contexts cursor context).1 hc
    rw [hn]
    exact ⟨fun _ => ⟨hf, a, ha, hoa⟩, fun _ => ⟨page, rfl⟩⟩

/-- A retired cursor is that of no other scroll, either. -/
lemma not_isOpenAt_of_hasRetired (h : Agrees config events s) (ha : a ∈ scrolls events)
    (hr : a.HasRetired cursor) : ¬ ∃ b ∈ scrolls events, b.IsOpenAt cursor := by
  rintro ⟨b, hb, hob⟩
  exact hr.2 (h.eq_of_mem_cursors ha hb hr.1 hob.mem_cursors ▸ hob)

end Agrees

/-- The state of a service agrees with every history of it. -/
lemma agrees_play (config : Config) (steps : List Step) :
    Agrees config (play config steps).1 (play config steps).2 := by
  induction steps using List.reverseRecOn with
  | nil => exact Agrees.fresh config
  | append_singleton steps step ih =>
    rw [play_concat]
    cases step with
    | openScroll q index => exact ih.opened q index
    | nextPage cursor keepAlive => exact ih.continued cursor keepAlive
    | release cursor => exact ih.released cursor

/-! ### Retired cursors -/

lemma exists_hasRetired_perform {steps : List Step} (ha : a ∈ scrolls (play config steps).1)
    (hr : a.HasRetired cursor) (step : Step) :
    ∃ b ∈ scrolls (play config (steps ++ [step])).1, b.HasRetired cursor := by
  have h := agrees_play config steps
  rw [play_concat]
  let event := (step.perform config (play config steps).2).1
  refine ⟨a.observe event, ?_, ?_⟩
  · show a.observe event ∈ scrolls (_ ++ [event])
    rw [scrolls_concat]
    exact List.mem_append_left _ (List.mem_map_of_mem ha)
  · cases step with
    | openScroll q index => exact hr
    | release c => exact hr.observe_released
    | nextPage c keepAlive =>
      show (a.observe (.continued c (nextPage config c keepAlive _).1)).HasRetired cursor
      cases hn : (nextPage config c keepAlive (play config steps).2).1 with
      | error fault => exact hr
      | ok page =>
        refine hr.observe_continued ?_
        rw [cursor_of_nextPage hn]
        exact (h.nextCursor_eq_or_notMem c).imp_right fun hc hm => hc (h.cursors a ha _ hm)

lemma exists_hasRetired_play {steps : List Step} (ha : a ∈ scrolls (play config steps).1)
    (hr : a.HasRetired cursor) (later : List Step) :
    ∃ b ∈ scrolls (play config (steps ++ later)).1, b.HasRetired cursor := by
  induction later using List.reverseRecOn with
  | nil =>
    rw [List.append_nil]
    exact ⟨a, ha, hr⟩
  | append_singleton later step ih =>
    obtain ⟨b, hb, hrb⟩ := ih
    rw [← List.append_assoc]
    exact exists_hasRetired_perform hb hrb step

/-- Whatever any number of clients ask of a service, one request between any others: the cursors it
makes are distinct and what it remembers is filed under them; every opening has its scroll, with
cursors of its own; a scroll that is not released has given its records in full pages, then one that
may be shorter, then empty ones, and what is to come is the rest; a page is given at the latest
cursors of the scrolls that are not released, except when it is to fail, so retired cursors are
rejected forever; a continuation that fails is counted and noted, and changes nothing else, and an
opening that fails changes nothing. -/
theorem serves_interleaved (config : Config) (steps : List Step) :
    let events := (play config steps).1
    let s := (play config steps).2
    ((minted config.rotates events).Nodup ∧ (s.contexts.map Prod.fst).Nodup ∧
        ∀ cursor ∈ s.contexts.map Prod.fst, cursor ∈ minted config.rotates events) ∧
      ((scrolls events).map Scroll.origin = events.filterMap Event.origin? ∧
        (scrolls events).Pairwise fun a b => a.cursors.Disjoint b.cursors) ∧
      (∀ scroll ∈ scrolls events, scroll.released = false → ∃ context full empty,
        Keyed.get? s.contexts scroll.cursor = some context ∧
          scroll.pages.flatMap Page.records ++ context.pending.flatten =
            config.records scroll.index ∧
          scroll.pages.map Page.records = full ++ List.replicate empty [] ∧
          (∀ records ∈ full, records ≠ []) ∧
          (∀ records ∈ full.dropLast, records.length = scroll.query.pageSize) ∧
          (0 < empty → context.pending = [])) ∧
      (∀ cursor keepAlive, (∃ page, (nextPage config cursor keepAlive s).1 = .ok page) ↔
        config.failsOn ≠ some (events.countP Event.isContinuation + 1) ∧
          ∃ scroll ∈ scrolls events, scroll.IsOpenAt cursor) ∧
      (∀ scroll ∈ scrolls events, ∀ cursor, scroll.HasRetired cursor → ∀ later keepAlive,
        ∃ fault, (nextPage config cursor keepAlive (play config (steps ++ later)).2).1 =
          .error fault) ∧
      (∀ cursor keepAlive fault, (nextPage config cursor keepAlive s).1 = .error fault →
        (nextPage config cursor keepAlive s).2 =
          { s with requests := s.requests + 1, submitted := s.submitted ++ [cursor] }) ∧
      ∀ q index fault, (openScroll config q index s).1 = .error fault →
        (openScroll config q index s).2 = s := by
  intro events s
  have h : Agrees config events s := agrees_play config steps
  refine ⟨⟨h.numbered.nodup, h.keys, ?_⟩, ⟨map_origin_scrolls events, h.disjoint⟩, ?_,
    h.exists_nextPage_eq_ok_iff, ?_, fun cursor keepAlive fault => nextPage_of_error,
    fun q index fault => openScroll_of_error⟩
  · intro cursor hm
    obtain ⟨context, hc⟩ := Option.ne_none_iff_exists'.1 fun hn => Keyed.get?_eq_none_iff.1 hn hm
    obtain ⟨a, ha, hoa, -⟩ := (h.contexts cursor context).1 hc
    exact h.mem_minted ha hoa
  · intro a ha hreleased
    let pieces := chunks a.query.pageSize (config.records a.index)
    have hpages := h.pages a ha
    refine ⟨a.context config, pieces.take a.pages.length, a.pages.length - pieces.length,
      (h.contexts _ _).2 ⟨a, ha, ⟨hreleased, rfl⟩, rfl⟩, ?_, hpages, ?_, ?_, ?_⟩
    · rw [List.flatMap_def, hpages]
      exact flatten_firstPages a.query.pageSize_pos _ _
    · exact fun records hm => ne_nil_of_mem_chunks (List.mem_of_mem_take hm)
    · exact fun records => length_of_mem_dropLast_chunks
    · intro hp
      exact List.drop_eq_nil_of_le (show pieces.length ≤ a.pages.length by omega)
  · intro a ha cursor hr later keepAlive
    have hl := agrees_play config (steps ++ later)
    obtain ⟨b, hb, hrb⟩ := exists_hasRetired_play ha hr later
    cases hn : (nextPage config cursor keepAlive (play config (steps ++ later)).2).1 with
    | error fault => exact ⟨fault, rfl⟩
    | ok page =>
      exact absurd ((hl.exists_nextPage_eq_ok_iff cursor keepAlive).1 ⟨page, hn⟩).2
        (hl.not_isOpenAt_of_hasRetired hb hrb)

end ScrollExport.Memory
