import Mathlib.Algebra.Order.Floor.Div
import ScrollExport.Proofs.Output.Writing
import ScrollExport.Proofs.Scroll.Calls
import ScrollExport.Scroll.Memory

/-!
# Paging

How a service in memory cuts its records into pages decides how many pages come, and how often its
cursors are renewed decides what they are called. Nothing else of an export depends on either.
-/

namespace ScrollExport.Memory

open Number
open Script (Call)

/-! ### Pieces of a list -/

section Chunks

variable {α : Type} {n : Nat} {xs : List α}

lemma ne_nil_of_mem_chunks {piece : List α} (h : piece ∈ chunks n xs) : piece ≠ [] := by
  fun_induction chunks n xs with
  | case1 => simp at h
  | case2 xs hn ih =>
    obtain ⟨hn, hx⟩ := not_or.1 hn
    rcases List.mem_cons.1 h with rfl | h
    · simp [hn, hx]
    · exact ih h

lemma flatten_chunks (hn : 0 < n) (xs : List α) : (chunks n xs).flatten = xs := by
  fun_induction chunks n xs with
  | case1 xs h =>
    obtain rfl := h.resolve_left hn.ne'
    rfl
  | case2 xs h ih => rw [List.flatten_cons, ih, List.take_append_drop]

lemma length_chunks (n : Nat) (xs : List α) : (chunks n xs).length = xs.length ⌈/⌉ n := by
  fun_induction chunks n xs with
  | case1 xs h => rcases h with rfl | rfl <;> simp
  | case2 xs h ih =>
    obtain ⟨hn, hx⟩ := not_or.1 h
    have hl := List.length_pos_iff.2 hx
    rw [List.length_cons, ih, List.length_drop, Nat.ceilDiv_eq_add_pred_div,
      Nat.ceilDiv_eq_add_pred_div, ← Nat.add_div_right _ (Nat.pos_of_ne_zero hn)]
    by_cases h : n ≤ xs.length
    · congr 1
      omega
    · rw [Nat.div_eq_of_lt_le (k := 1), Nat.div_eq_of_lt_le (k := 1)] <;> omega

end Chunks

/-! ### Cursors -/

lemma dash_notMem_natChars (n : Nat) : '-' ∉ natChars n := by
  intro h
  exact absurd (Nat.isDigit_of_mem_toDigits (by decide) (by decide) h) (by decide)

/-- The index of a cursor can be told, whatever dashes are in its name. -/
lemma indexOf_cursorOf (index : String) (generation : Nat) :
    indexOf (cursorOf index generation) = index := by
  have hd : ∀ c ∈ (natChars generation).reverse, (! decide (c = '-')) = true := by
    intro c hc
    rw [Bool.not_eq_true', decide_eq_false_iff_not]
    rintro rfl
    exact dash_notMem_natChars generation (List.mem_reverse.1 hc)
  have hl : (cursorOf index generation).toList = index.toList ++ '-' :: natChars generation := by
    simp [cursorOf, natText]
  simp [indexOf, hl, List.dropWhile_append_of_pos hd]

/-! ### Requests -/

section Requests

variable (config : Config) (cursor : Cursor) (s : State)

def Config.nextGeneration : Nat :=
  if config.rotates then s.generation + 1 else s.generation

/-- The cursor of the page that follows the one at `cursor`. -/
def Config.nextCursor : Cursor :=
  if config.rotates then cursorOf (indexOf cursor) (s.generation + 1) else cursor

/-- A continuation is counted before anything can go wrong with it. -/
def State.asked : State :=
  { s with requests := s.requests + 1, submitted := s.submitted ++ [cursor] }

lemma indexOf_nextCursor : indexOf (config.nextCursor cursor s) = indexOf cursor := by
  unfold Config.nextCursor
  split_ifs
  · rw [indexOf_cursorOf]
  · rfl

variable {config cursor s}

lemma openScroll_of_get?_eq_none {index : String} (hi : Keyed.get? config.indices index = none)
    (q : Query) (s : State) : openScroll config q index s = (.error (.unknownIndex index), s) := by
  simp only [openScroll, hi]

lemma openScroll_of_get? {index : String} {records : List Record}
    (hi : Keyed.get? config.indices index = some records) (q : Query) (s : State) :
    openScroll config q index s =
      (.ok ⟨cursorOf index (s.generation + 1), some records.length,
          (chunks q.pageSize records).head?.getD []⟩,
        { s with
          generation := s.generation + 1
          contexts := Keyed.put s.contexts (cursorOf index (s.generation + 1))
            ⟨(chunks q.pageSize records).tail, records.length⟩ }) := by
  simp only [openScroll, hi]

lemma nextPage_of_failsOn (hf : config.failsOn = some (s.requests + 1)) (cursor : Cursor)
    (keepAlive : String) :
    nextPage config cursor keepAlive s =
      (.error (.injected (s.requests + 1)), s.asked cursor) := by
  simp [nextPage, hf, State.asked]

lemma nextPage_of_get?_eq_none (hf : config.failsOn ≠ some (s.requests + 1))
    (hc : Keyed.get? s.contexts cursor = none) (keepAlive : String) :
    nextPage config cursor keepAlive s = (.error (.unknownCursor cursor), s.asked cursor) := by
  simp [nextPage, hf, hc, State.asked]

lemma nextPage_of_get? {context : Context} (hf : config.failsOn ≠ some (s.requests + 1))
    (hc : Keyed.get? s.contexts cursor = some context) (keepAlive : String) :
    nextPage config cursor keepAlive s =
      (.ok ⟨config.nextCursor cursor s, some context.total, context.pending.head?.getD []⟩,
        { s.asked cursor with
          generation := config.nextGeneration s
          contexts := Keyed.put (Keyed.erase s.contexts cursor) (config.nextCursor cursor s)
            ⟨context.pending.tail, context.total⟩ }) := by
  cases hr : config.rotates <;>
    simp [nextPage, hf, hc, hr, State.asked, Config.nextCursor, Config.nextGeneration]

end Requests

/-! ### Following one scroll -/

variable {config : Config} {q : Query} {keepAlive : String}

/-- None of the next `n` continuations is the one to fail. -/
def Config.Spares (config : Config) (s : State) (n : Nat) : Prop :=
  ∀ k, s.requests < k → k ≤ s.requests + n → config.failsOn ≠ some k

/-- The only open scroll has this page as its latest, and these pages to come. -/
def State.Serves (s : State) (page : Page) (pending : List (List Record)) : Prop :=
  ∃ total, s.contexts = [(page.cursor, ⟨pending, total⟩)]

/-- The next page has the next records, and comes from the same index. -/
lemma nextPage_of_serves (config : Config) (keepAlive : String) {s : State} {page : Page}
    {pending : List (List Record)} (hs : s.Serves page pending) :
    ∃ page' s', (∀ failsOn, Config.Spares { config with failsOn } s 1 →
        nextPage { config with failsOn } page.cursor keepAlive s = (.ok page', s')) ∧
      page'.records = pending.head?.getD [] ∧ s'.Serves page' pending.tail ∧
      indexOf page'.cursor = indexOf page.cursor ∧ s'.requests = s.requests + 1 := by
  obtain ⟨total, hc⟩ := hs
  let cursor := config.nextCursor page.cursor s
  let page' : Page := ⟨cursor, some total, pending.head?.getD []⟩
  let s' : State :=
    { s with
      requests := s.requests + 1
      submitted := s.submitted ++ [page.cursor]
      generation := config.nextGeneration s
      contexts := [(cursor, ⟨pending.tail, total⟩)] }
  refine ⟨page', s', ?_, rfl, ⟨total, rfl⟩, indexOf_nextCursor config page.cursor s, rfl⟩
  intro failsOn hf
  have hn : failsOn ≠ some (s.requests + 1) := hf _ (by omega) (by omega)
  have hg : Keyed.get? s.contexts page.cursor = some ⟨pending, total⟩ := by
    simp [hc, Keyed.get?_cons]
  have he : Keyed.erase s.contexts page.cursor = [] := by simp [hc, Keyed.erase]
  rw [nextPage_of_get? hn hg keepAlive, he]
  rfl

/-- A scroll is followed through all of its pages and one more, which is empty. -/
lemma follows_of_serves {pieces : List (List Record)} (hne : ∀ piece ∈ pieces, piece ≠ [])
    {s : State} {page : Page} (hr : page.records = pieces.head?.getD [])
    (hs : s.Serves page pieces.tail) :
    ∃ further s', (∀ failsOn, Config.Spares { config with failsOn } s pieces.length →
        (service { config with failsOn }).Follows keepAlive page s further none s') ∧
      (page :: further).map Page.records = pieces ++ [[]] ∧
      s'.Serves (further.getLast?.getD page) [] ∧
      indexOf (further.getLast?.getD page).cursor = indexOf page.cursor ∧
      s'.requests = s.requests + pieces.length := by
  -- the first piece is the page at hand, the others are to come
  induction pieces generalizing s page with
  | nil =>
    have he : page.isEmpty = true := by simp [Page.isEmpty, hr]
    exact ⟨[], s, fun _ _ => .finished he, by simp [hr], hs, rfl, rfl⟩
  | cons piece pieces ih =>
    have he : page.isEmpty = false := by
      have hp := hne piece (List.mem_cons_self ..)
      simpa [Page.isEmpty, hr] using hp
    obtain ⟨page', s₁, hn, hr', hs₁, hi, hq⟩ := nextPage_of_serves config keepAlive hs
    obtain ⟨further, s₂, hw, hp, hs₂, hi', hq'⟩ :=
      ih (fun p hp => hne p (List.mem_cons_of_mem _ hp)) hr' hs₁
    refine ⟨page' :: further, s₂, ?_, ?_, ?_, ?_, ?_⟩
    · intro failsOn hf
      have hf₁ : Config.Spares { config with failsOn } s 1 := fun k hk hk' =>
        hf k hk (by rw [List.length_cons]; omega)
      have hf₂ : Config.Spares { config with failsOn } s₁ pieces.length := fun k hk hk' =>
        hf k (by omega) (by rw [List.length_cons]; omega)
      exact .next he (hn failsOn hf₁) (hw failsOn hf₂)
    · rw [List.map_cons, hp, hr]
      rfl
    · simpa [List.getLast?_cons] using hs₂
    · simpa [List.getLast?_cons, hi] using hi'
    · simp only [hq', hq, List.length_cons]
      omega

/-! ### Complete visits -/

/-- The records of an index that is known. -/
def Config.records (config : Config) (index : String) : List Record :=
  (Keyed.get? config.indices index).getD []

def Config.Knows (config : Config) (index : String) : Prop :=
  (Keyed.get? config.indices index).isSome = true

/-- A visit that received all records in pages of `n`, and the empty page after them. -/
structure IsComplete (config : Config) (n : Nat) (v : Visit Fault) : Prop where
  failure : v.failure = none
  pages : v.pages.map Page.records = chunks n (config.records v.index) ++ [[]]
  cursor : v.pages.getLast?.map (fun page => indexOf page.cursor) = some v.index

/-- The first page of an index has its first records. -/
lemma openScroll_of_knows {index : String} (hk : config.Knows index) (q : Query) {s : State}
    (hc : s.contexts = []) :
    ∃ page s', (∀ failsOn, openScroll { config with failsOn } q index s = (.ok page, s')) ∧
      page.records = (chunks q.pageSize (config.records index)).head?.getD [] ∧
      s'.Serves page (chunks q.pageSize (config.records index)).tail ∧
      indexOf page.cursor = index ∧ s'.requests = s.requests := by
  obtain ⟨records, hg⟩ := Option.isSome_iff_exists.1 hk
  have hr : config.records index = records := by simp [Config.records, hg]
  rw [hr]
  refine ⟨_, _, fun failsOn => openScroll_of_get? hg q s, rfl, ⟨records.length, ?_⟩,
    indexOf_cursorOf index _, rfl⟩
  simp [hc, Keyed.put]

lemma drains_of_knows {index : String} (hk : config.Knows index) {s : State}
    (hc : s.contexts = []) :
    ∃ v s', (∀ failsOn, Config.Spares { config with failsOn } s
          (chunks q.pageSize (config.records index)).length →
        (service { config with failsOn }).Drains q index s v s') ∧
      IsComplete config q.pageSize v ∧ s'.contexts = [] ∧
      s'.requests = s.requests + (chunks q.pageSize (config.records index)).length := by
  obtain ⟨page, s₁, ho, hr, hs, hi, hq⟩ := openScroll_of_knows hk q hc
  obtain ⟨further, s₂, hw, hp, ⟨total, hs₂⟩, hi', hq'⟩ :=
    follows_of_serves (fun _ => ne_nil_of_mem_chunks) hr hs
  rw [hq] at hq'
  refine ⟨⟨index, page :: further, none⟩, (release (further.getLast?.getD page).cursor s₂).2,
    fun failsOn hf => ?_, ⟨rfl, hp, ?_⟩, ?_, hq'⟩
  · have hf' : Config.Spares { config with failsOn } s₁
        (chunks q.pageSize (config.records index)).length := by
      unfold Config.Spares
      rwa [hq]
    exact .drained (ho failsOn) (hw failsOn hf') rfl
  · simp [List.getLast?_cons, hi', hi]
  · simp [release, hs₂, Keyed.erase]

lemma gathers_of_knows {indices : List String} (hk : ∀ index ∈ indices, config.Knows index)
    {s : State} (hc : s.contexts = []) :
    ∃ vs s', (∀ failsOn, Config.Spares { config with failsOn } s
          (indices.map fun index => (chunks q.pageSize (config.records index)).length).sum →
        (service { config with failsOn }).Gathers q indices s vs s') ∧
      vs.map Visit.index = indices ∧ (∀ v ∈ vs, IsComplete config q.pageSize v) ∧
      s'.contexts = [] ∧ s'.requests = s.requests +
        (indices.map fun index => (chunks q.pageSize (config.records index)).length).sum := by
  induction indices generalizing s with
  | nil => exact ⟨[], s, fun _ _ => .nil, rfl, by simp, hc, rfl⟩
  | cons index rest ih =>
    obtain ⟨hki, hkr⟩ := List.forall_mem_cons.1 hk
    obtain ⟨v, s₁, hd, hv, hc₁, hq⟩ := drains_of_knows (q := q) hki hc
    obtain ⟨vs, s₂, hg, hi, hvs, hc₂, hq'⟩ := ih hkr hc₁
    simp only [List.map_cons, List.sum_cons]
    refine ⟨v :: vs, s₂, ?_, ?_, List.forall_mem_cons.2 ⟨hv, hvs⟩, hc₂, by omega⟩
    · intro failsOn hf
      exact .cons (hd failsOn fun k hk hk' => hf k hk (by omega)) hv.failure
        (hg failsOn fun k hk hk' => hf k (by omega) (by omega))
    · rw [List.map_cons, hi, (hd none fun _ _ _ => nofun).index_eq]

/-! ### Figures of a complete visit -/

/-- The cursors that a call submits to be continued. -/
@[simp] def submissions : Call → List Cursor
  | .nextPage cursor _ => [cursor]
  | _ => []

/-- The cursors that a call releases. -/
@[simp] def releases : Call → List Cursor
  | .release cursor => [cursor]
  | _ => []

@[simp] lemma submitted_fresh : State.fresh.submitted = [] := rfl

@[simp] lemma released_fresh : State.fresh.released = [] := rfl

lemma logs_submitted (config : Config) (q : Query) :
    (service config).Logs q State.submitted submissions where
  openScroll index s := by
    simp only [service, openScroll]
    split <;> simp
  nextPage cursor s := by
    simp only [service, nextPage]
    split
    · rfl
    · split <;> rfl
  release cursor s := by simp [service, release]

lemma logs_released (config : Config) (q : Query) :
    (service config).Logs q State.released releases where
  openScroll index s := by
    simp only [service, openScroll]
    split <;> simp
  nextPage cursor s := by
    simp only [service, nextPage]
    split
    · simp
    · split <;> simp
  release cursor s := by simp [service, release]

/-- A cursor is submitted for each page that holds a record. -/
lemma length_submissions (q : Query) (v : Visit Fault) :
    ((v.calls q).flatMap submissions).length =
      ((v.pages.map Page.records).filter fun records => !records.isEmpty).length := by
  simp [Visit.calls, List.flatMap_map, List.filter_map, Function.comp_def, Page.isEmpty]

lemma filter_chunks (n : Nat) (xs : List Record) :
    (chunks n xs).filter (fun records => !records.isEmpty) = chunks n xs := by
  refine List.filter_eq_self.2 fun piece hm => ?_
  simpa using ne_nil_of_mem_chunks hm

namespace IsComplete

variable {n : Nat} {v : Visit Fault}

lemma records (h : IsComplete config n v) (hn : 0 < n) :
    v.records = config.records v.index := by
  rw [Visit.records, List.flatMap_def, h.pages]
  simp [flatten_chunks hn]

lemma length_pages (h : IsComplete config n v) :
    v.pages.length = (config.records v.index).length ⌈/⌉ n + 1 := by
  have hl := congrArg List.length h.pages
  simpa [length_chunks] using hl

lemma length_submissions (h : IsComplete config q.pageSize v) :
    ((v.calls q).flatMap submissions).length =
      (config.records v.index).length ⌈/⌉ q.pageSize := by
  rw [Memory.length_submissions, h.pages, List.filter_append, filter_chunks]
  simp [length_chunks]

lemma indexOf_releases (h : IsComplete config q.pageSize v) :
    ((v.calls q).flatMap releases).map indexOf = [v.index] := by
  obtain ⟨page, hl, hi⟩ := Option.map_eq_some_iff.1 h.cursor
  simp [Visit.calls, List.flatMap_map, hl, hi]

end IsComplete

/-! ### Figures of complete visits -/

section Visits

variable {vs : List (Visit Fault)} (hvs : ∀ v ∈ vs, IsComplete config q.pageSize v)
include hvs

lemma flatMap_records_of_complete :
    vs.flatMap Visit.records = (vs.map Visit.index).flatMap config.records := by
  rw [List.flatMap_map]
  exact List.flatMap_congr fun v hv => (hvs v hv).records q.pageSize_pos

lemma map_count_of_complete :
    vs.map Visit.count =
      (vs.map Visit.index).map fun index => ⟨index, (config.records index).length⟩ := by
  rw [List.map_map]
  refine List.map_congr_left fun v hv => ?_
  rw [Visit.count, (hvs v hv).records q.pageSize_pos]
  rfl

lemma length_flatMap_pages_of_complete :
    (vs.flatMap Visit.pages).length = ((vs.map Visit.index).map fun index =>
      (config.records index).length ⌈/⌉ q.pageSize + 1).sum := by
  rw [List.length_flatMap, List.map_map]
  exact congrArg List.sum (List.map_congr_left fun v hv => (hvs v hv).length_pages)

lemma length_submissions_of_complete :
    ((vs.flatMap (Visit.calls q)).flatMap submissions).length =
      ((vs.map Visit.index).map fun index =>
        (config.records index).length ⌈/⌉ q.pageSize).sum := by
  rw [List.flatMap_assoc, List.length_flatMap, List.map_map]
  exact congrArg List.sum (List.map_congr_left fun v hv => (hvs v hv).length_submissions)

lemma indexOf_releases_of_complete :
    ((vs.flatMap (Visit.calls q)).flatMap releases).map indexOf = vs.map Visit.index := by
  rw [List.flatMap_assoc, List.map_flatMap,
    List.flatMap_congr fun v hv => (hvs v hv).indexOf_releases, ← List.map_eq_flatMap]

lemma failure_of_complete (s s' : State) :
    (Gathered.ofVisits (.start s) vs s').failure = none := by
  cases hl : vs.getLast? with
  | none => simp [Gathered.ofVisits, hl]
  | some v => simp [Gathered.ofVisits, hl, (hvs v (List.mem_of_getLast? hl)).failure]

end Visits

/-! ### Exports -/

/-- The report on all records of the indices of a plan. -/
def Config.report (config : Config) (plan : ExportPlan) (elapsed : Duration) : Report where
  count := (plan.query.indices.flatMap config.records).length
  pages := (plan.query.indices.map fun index =>
    (config.records index).length ⌈/⌉ plan.query.pageSize + 1).sum
  indices := plan.query.indices.map fun index => ⟨index, (config.records index).length⟩
  outputs := plan.targets.map Target.output
  elapsed := elapsed

lemma report_of_complete {plan : ExportPlan} {vs : List (Visit Fault)}
    (hvs : ∀ v ∈ vs, IsComplete config plan.query.pageSize v)
    (hi : vs.map Visit.index = plan.query.indices) (elapsed : Duration) (s s' : State) :
    plan.report (.ofVisits (.start s) vs s') elapsed = config.report plan elapsed := by
  simp [ExportPlan.report, Config.report, Gathered.ofVisits, Progress.start,
    flatMap_records_of_complete hvs, map_count_of_complete hvs,
    length_flatMap_pages_of_complete hvs, ← hi, Function.comp_def]

/-- An export that no continuation fails takes every record of its indices. -/
theorem export_of_knows (config : Config) {plan : ExportPlan}
    (hk : ∀ index ∈ plan.query.indices, config.Knows index)
    (hf : config.Spares .fresh (plan.query.indices.map fun index =>
      (config.records index).length ⌈/⌉ plan.query.pageSize).sum)
    (elapsed : Duration) (files : FileTree) :
    let run := (service config).export plan elapsed .fresh files
    let table := Table.empty.extend (plan.query.indices.flatMap config.records)
    let written := writeTargets table plan.targets files
    run.1 = ⟨if written.1 = [] then .ok (config.report plan elapsed)
        else .error (.files written.1), written.2⟩ ∧
      run.2.submitted.length = (plan.query.indices.map fun index =>
        (config.records index).length ⌈/⌉ plan.query.pageSize).sum ∧
      run.2.released.map indexOf = plan.query.indices ∧ run.2.contexts = [] := by
  intro run table written
  simp only [← length_chunks] at hf
  obtain ⟨vs, s', hg, hi, hvs, hc, -⟩ :=
    gathers_of_knows (q := plan.query) hk (s := .fresh) rfl
  have hg : (service config).Gathers plan.query plan.query.indices .fresh vs s' :=
    hg config.failsOn hf
  have hrun : run = (plan.conclude (.ofVisits (.start .fresh) vs s') elapsed files, s') :=
    Service.export_eq hg elapsed files
  have htable : (Gathered.ofVisits (.start State.fresh) vs s').progress.table = table := by
    simp only [Gathered.ofVisits, flatMap_records_of_complete hvs, hi]
    rfl
  rw [hrun]
  refine ⟨?_, ?_, ?_, hc⟩
  · simp only [ExportPlan.conclude, failure_of_complete hvs, htable, report_of_complete hvs hi]
    rfl
  · have hl := (logs_submitted config plan.query).gathers hg
    rw [submitted_fresh, List.nil_append] at hl
    rw [hl, length_submissions_of_complete hvs, hi]
  · have hl := (logs_released config plan.query).gathers hg
    rw [released_fresh, List.nil_append] at hl
    rw [hl, indexOf_releases_of_complete hvs, hi]

/-- How an index is cut into pages, and whether cursors are renewed, shows in no file and changes
nothing but the number of pages of the report. -/
theorem export_paging {plan plan' : ExportPlan}
    (hi : plan'.query.indices = plan.query.indices) (ht : plan'.targets = plan.targets)
    {indices : List (String × List Record)}
    (hk : ∀ index ∈ plan.query.indices, (Keyed.get? indices index).isSome = true)
    (rotates rotates' : Bool) (elapsed elapsed' : Duration) (files : FileTree) :
    let records index := (Keyed.get? indices index).getD []
    let requests index := (records index).length ⌈/⌉ plan.query.pageSize
    let run := (service ⟨indices, rotates, none⟩).export plan elapsed .fresh files
    let run' := (service ⟨indices, rotates', none⟩).export plan' elapsed' .fresh files
    let table := Table.empty.extend (plan.query.indices.flatMap records)
    let written := writeTargets table plan.targets files
    ∃ report report' : Report,
      ((∀ t ∈ plan.targets, files.IsWritable t.path) →
        run.1.result = .ok report ∧ run'.1.result = .ok report') ∧
      run.1 = ⟨if written.1 = [] then .ok report else .error (.files written.1), written.2⟩ ∧
      run'.1 = ⟨if written.1 = [] then .ok report' else .error (.files written.1), written.2⟩ ∧
      report' = { report with pages := report'.pages, elapsed := elapsed' } ∧
      report.count = table.size ∧
      report.pages = (plan.query.indices.map fun index => requests index + 1).sum ∧
      run.2.submitted.length = (plan.query.indices.map requests).sum ∧
      run.2.released.map indexOf = plan.query.indices ∧
      run.2.contexts = [] := by
  intro records requests run run' table written
  have hk' : ∀ index ∈ plan'.query.indices, (Keyed.get? indices index).isSome = true := by
    rw [hi]
    exact hk
  let config : Config := ⟨indices, rotates, none⟩
  let config' : Config := ⟨indices, rotates', none⟩
  obtain ⟨hr, hs, hl, hc⟩ := export_of_knows config hk (fun _ _ _ => nofun) elapsed files
  obtain ⟨hr', -⟩ := export_of_knows config' hk' (fun _ _ _ => nofun) elapsed' files
  rw [hi, ht] at hr'
  change run.1 = ⟨if written.1 = [] then .ok (config.report plan elapsed)
    else .error (.files written.1), written.2⟩ at hr
  change run'.1 = ⟨if written.1 = [] then .ok (config'.report plan' elapsed')
    else .error (.files written.1), written.2⟩ at hr'
  refine ⟨_, _, ?_, hr, hr', ?_, ?_, rfl, hs, hl, hc⟩
  · intro hw
    have hn : written.1 = [] := (writeTargets_eq_nil_iff table plan.targets files).2 hw
    rw [hr, hr', if_pos hn, if_pos hn]
    exact ⟨rfl, rfl⟩
  · simp only [Config.report, hi, ht]
    rfl
  · simp only [table, Config.report, Table.size_extend, Table.size_empty, Nat.zero_add]
    rfl

/-- Three records of an index that is read twice, in one page or in pages of one. -/
theorem export_paging_of_three :
    let range : TimeRange := ⟨"t", "date", none, none⟩
    let query : Query := ⟨["a-1", "b", "a-1"], 1, "1m", range, by decide, by decide, by decide⟩
    let query' : Query := ⟨["a-1", "b", "a-1"], 7, "1m", range, by decide, by decide, by decide⟩
    let plan : ExportPlan := ⟨query, OutputPaths.standard.targets 44, .discard⟩
    let plan' : ExportPlan := ⟨query', OutputPaths.standard.targets 44, .discard⟩
    let record id : Record := ⟨id, [("n", .nat 1)], by simp⟩
    let indices := [("a-1", [record "x", record "y", record "z"]), ("b", [])]
    let files := FileTree.empty ["home"]
    plan'.query.indices = plan.query.indices ∧ plan'.targets = plan.targets ∧
      (∀ index ∈ plan.query.indices, (Keyed.get? indices index).isSome = true) ∧
      ∃ report report' : Report,
        ((service ⟨indices, true, none⟩).export plan ⟨1, 0⟩ .fresh files).1.result = .ok report ∧
        ((service ⟨indices, false, none⟩).export plan' ⟨2, 0⟩ .fresh files).1.result =
          .ok report' ∧
        report' = { report with pages := report'.pages, elapsed := ⟨2, 0⟩ } ∧
        report.pages = 9 := by
  intro range query query' plan plan' record indices files
  have hk : ∀ index ∈ plan.query.indices, (Keyed.get? indices index).isSome = true := by
    simp [plan, query, indices, Keyed.get?]
  have hw : ∀ t ∈ plan.targets, files.IsWritable t.path := isWritable_standard ["home"] 44
  have hi : plan'.query.indices = plan.query.indices := rfl
  have ht : plan'.targets = plan.targets := rfl
  obtain ⟨report, report', hr, -, -, hrr, -, hp, -⟩ :=
    export_paging hi ht hk true false ⟨1, 0⟩ ⟨2, 0⟩ files
  refine ⟨hi, ht, hk, report, report', (hr hw).1, (hr hw).2, hrr, ?_⟩
  rw [hp]
  decide

end ScrollExport.Memory
