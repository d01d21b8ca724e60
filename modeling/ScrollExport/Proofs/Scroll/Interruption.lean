import ScrollExport.Proofs.Output.Effects
import ScrollExport.Proofs.Scroll.Paging

/-!
# Interruptions

A service in memory that is told to fail one continuation. The continuations are counted over all
indices, the pages and rows index by index; the failure leaves all records of the earlier indices
and whole pages of the one that was being drained.
-/

namespace ScrollExport.Memory

/-! ### Where a continuation falls -/

/-- Of the continuations that the indices take in order, the `n`-th is the `j`-th of `index`, after
all those of the `earlier` ones. -/
structure Falls (requests : String → Nat) (indices : List String) (n : Nat)
    (earlier : List String) (index : String) (j : Nat) : Prop where
  indices_eq : ∃ later, indices = earlier ++ index :: later
  pos : 1 ≤ j
  le : j ≤ requests index
  eq : n = (earlier.map requests).sum + j

lemma exists_falls {requests : String → Nat} {indices : List String} {n : Nat} (hn : 1 ≤ n)
    (hl : n ≤ (indices.map requests).sum) :
    ∃ earlier index j, Falls requests indices n earlier index j := by
  induction indices generalizing n with
  | nil =>
    simp only [List.map_nil, List.sum_nil] at hl
    omega
  | cons index rest ih =>
    rw [List.map_cons, List.sum_cons] at hl
    by_cases hi : n ≤ requests index
    · exact ⟨[], index, n, ⟨rest, rfl⟩, hn, hi, by simp⟩
    · obtain ⟨earlier, index', j, ⟨later, rfl⟩, hj, hj', he⟩ :=
        ih (n := n - requests index) (by omega) (by omega)
      refine ⟨index :: earlier, index', j, ⟨later, rfl⟩, hj, hj', ?_⟩
      rw [List.map_cons, List.sum_cons]
      omega

/-! ### First pieces of a list -/

lemma flatten_take_chunks {α : Type} {n : Nat} (hn : 0 < n) (xs : List α) (j : Nat) :
    ((chunks n xs).take j).flatten = xs.take (j * n) := by
  fun_induction chunks n xs generalizing j with
  | case1 xs h =>
    obtain rfl := h.resolve_left hn.ne'
    simp
  | case2 xs h ih =>
    cases j with
    | zero => simp
    | succ j =>
      rw [List.take_succ_cons, List.flatten_cons, ih, Nat.succ_mul, Nat.add_comm, List.take_add]

/-! ### Following a scroll up to the failure -/

variable {config : Config} {q : Query} {keepAlive : String}

/-- The pages up to the failure are the first pieces, and the scroll stays open. -/
lemma follows_of_failing {pieces : List (List Record)} (hne : ∀ piece ∈ pieces, piece ≠ [])
    {s : State} {page : Page} (hr : page.records = pieces.head?.getD [])
    (hs : s.Serves page pieces.tail) {j : Nat} (hj : 1 ≤ j) (hj' : j ≤ pieces.length)
    (hf : config.failsOn = some (s.requests + j)) :
    ∃ further s', (service config).Follows keepAlive page s further
        (some (.injected (s.requests + j))) s' ∧
      (page :: further).map Page.records = pieces.take j ∧
      (∃ pending, s'.Serves (further.getLast?.getD page) pending) := by
  induction pieces generalizing s page j with
  | nil =>
    rw [List.length_nil] at hj'
    omega
  | cons piece pieces ih =>
    have hp : page.records = piece := hr
    have he : page.isEmpty = false := by
      have hpiece := hne piece (List.mem_cons_self ..)
      simpa [Page.isEmpty, hp] using hpiece
    obtain rfl | hj₁ := Nat.eq_or_lt_of_le hj
    · have hn := nextPage_of_failsOn hf page.cursor keepAlive
      exact ⟨[], _, .failed he hn, by simp [hp], pieces, hs⟩
    · -- the failure is still to come, so one more page is served
      obtain ⟨j, rfl⟩ : ∃ k, j = k + 1 := ⟨j - 1, by omega⟩
      rw [List.length_cons] at hj'
      obtain ⟨page', s₁, hn, hr', hs₁, -, hq⟩ := nextPage_of_serves config keepAlive hs
      have hspare : config.Spares s 1 := by
        intro k hk hk'
        rw [hf, ne_eq, Option.some.injEq]
        omega
      have hf₁ : config.failsOn = some (s₁.requests + j) := by
        rw [hf, hq, Nat.add_assoc, Nat.add_comm 1]
      obtain ⟨further, s₂, hw, hpages, hs₂⟩ :=
        ih (fun p hm => hne p (List.mem_cons_of_mem _ hm)) hr' hs₁ (by omega) (by omega) hf₁
      refine ⟨page' :: further, s₂, ?_, ?_, ?_⟩
      · have hsum : s₁.requests + j = s.requests + (j + 1) := by omega
        rw [hsum] at hw
        exact .next he (hn config.failsOn hspare) hw
      · rw [List.map_cons, hpages, hp]
        rfl
      · simpa [List.getLast?_cons] using hs₂

/-! ### Visits that are cut short -/

/-- A visit that received the first `j` pages of `n` records before a continuation failed. -/
structure IsCut (config : Config) (n j : Nat) (cause : Fault) (v : Visit Fault) : Prop where
  failure : v.failure = some (.continuation cause)
  pages : v.pages.map Page.records = (chunks n (config.records v.index)).take j

namespace IsCut

variable {n j : Nat} {cause : Fault} {v : Visit Fault}

lemma records (h : IsCut config n j cause v) (hn : 0 < n) :
    v.records = (config.records v.index).take (min (config.records v.index).length (j * n)) := by
  rw [Visit.records, List.flatMap_def, h.pages, flatten_take_chunks hn, List.take_eq_take_iff]
  omega

lemma length_pages (h : IsCut config n j cause v)
    (hj : j ≤ (chunks n (config.records v.index)).length) : v.pages.length = j := by
  have hl := congrArg List.length h.pages
  rw [List.length_map, List.length_take] at hl
  omega

lemma length_submissions (h : IsCut config q.pageSize j cause v)
    (hj : j ≤ (chunks q.pageSize (config.records v.index)).length) :
    ((v.calls q).flatMap submissions).length = j := by
  have hne : ∀ piece ∈ (chunks q.pageSize (config.records v.index)).take j,
      (!piece.isEmpty) = true := by
    intro piece hm
    simpa using ne_nil_of_mem_chunks (List.mem_of_mem_take hm)
  rw [Memory.length_submissions, h.pages, List.filter_eq_self.2 hne, List.length_take]
  omega

end IsCut

lemma drains_of_failing {index : String} (hk : config.Knows index) {s : State}
    (hc : s.contexts = []) {j : Nat} (hj : 1 ≤ j)
    (hj' : j ≤ (chunks q.pageSize (config.records index)).length)
    (hf : config.failsOn = some (s.requests + j)) :
    ∃ v s', (service config).Drains q index s v s' ∧
      IsCut config q.pageSize j (.injected (s.requests + j)) v ∧ s'.contexts = [] := by
  obtain ⟨page, s₁, ho, hr, hs, -, hq⟩ := openScroll_of_knows hk q hc
  rw [← hq] at hf ⊢
  obtain ⟨further, s₂, hw, hp, pending, total, hs₂⟩ :=
    follows_of_failing (fun _ => ne_nil_of_mem_chunks) hr hs hj hj' hf
  refine ⟨⟨index, page :: further, _⟩, (release (further.getLast?.getD page).cursor s₂).2,
    .drained (ho config.failsOn) hw rfl, ⟨rfl, hp⟩, ?_⟩
  simp [release, hs₂, Keyed.erase]

/-- The indices before the failure are drained completely. -/
lemma gathers_of_failing {indices earlier : List String} {index : String} {n j : Nat}
    (hk : ∀ index ∈ indices, config.Knows index) (hf : config.failsOn = some n)
    (hl : Falls (fun index => (chunks q.pageSize (config.records index)).length) indices n earlier
      index j) :
    ∃ vs v s', (service config).Gathers q indices .fresh (vs ++ [v]) s' ∧
      vs.map Visit.index = earlier ∧ (∀ v ∈ vs, IsComplete config q.pageSize v) ∧
      v.index = index ∧ IsCut config q.pageSize j (.injected n) v ∧ s'.contexts = [] := by
  obtain ⟨⟨later, rfl⟩, hj, hj', rfl⟩ := hl
  obtain ⟨hke, hki, -⟩ := List.forall_mem_append.1 hk |>.imp_right List.forall_mem_cons.1
  obtain ⟨vs, s₁, hg, hi, hvs, hc₁, hq⟩ := gathers_of_knows (q := q) hke (s := .fresh) rfl
  rw [show State.fresh.requests = 0 from rfl, Nat.zero_add] at hq
  rw [← hq] at hf ⊢
  have hspare : config.Spares .fresh
      (earlier.map fun index => (chunks q.pageSize (config.records index)).length).sum := by
    intro m hm hm'
    rw [hf, ne_eq, Option.some.injEq, hq]
    have : State.fresh.requests = 0 := rfl
    omega
  obtain ⟨v, s₂, hd, hv, hc₂⟩ := drains_of_failing hki hc₁ hj hj' hf
  refine ⟨vs, v, s₂, ?_, hi, hvs, hd.index_eq, hv, hc₂⟩
  have hstop : (service config).Gathers q (index :: later) s₁ [v] s₂ :=
    .stop hd (by simp [hv.failure])
  exact (hg config.failsOn hspare).append (fun v hm => (hvs v hm).failure) hstop

/-! ### Interrupted exports -/

/-- The report on all records of the `earlier` indices and the first `j` pages of `index`. -/
def Config.partialReport (config : Config) (plan : ExportPlan) (earlier : List String)
    (index : String) (j : Nat) (elapsed : Duration) : Report :=
  let taken := min (config.records index).length (j * plan.query.pageSize)
  { count := (earlier.map fun index => (config.records index).length).sum + taken
    pages := (earlier.map fun index =>
      (config.records index).length ⌈/⌉ plan.query.pageSize + 1).sum + j
    indices := (earlier.map fun index => ⟨index, (config.records index).length⟩) ++ [⟨index, taken⟩]
    outputs := plan.targets.map Target.output
    elapsed }

/-- What is gathered before the `j`-th continuation of `index` fails. -/
lemma ofVisits_of_cut {plan : ExportPlan} {vs : List (Visit Fault)} {v : Visit Fault} {n j : Nat}
    (hvs : ∀ v ∈ vs, IsComplete config plan.query.pageSize v)
    (hv : IsCut config plan.query.pageSize j (.injected n) v)
    (hj : j ≤ (chunks plan.query.pageSize (config.records v.index)).length) (s s' : State)
    (elapsed : Duration) :
    let g := Gathered.ofVisits (.start s) (vs ++ [v]) s'
    let report := config.partialReport plan (vs.map Visit.index) v.index j elapsed
    g.progress.table = Table.empty.extend ((vs.map Visit.index).flatMap config.records ++
        (config.records v.index).take
          (min (config.records v.index).length (j * plan.query.pageSize))) ∧
      plan.report g elapsed = report ∧
      g.failure = some ⟨v.index, report.count, .continuation (.injected n)⟩ := by
  intro g report
  have hr : (vs ++ [v]).flatMap Visit.records = (vs.map Visit.index).flatMap config.records ++
      (config.records v.index).take
        (min (config.records v.index).length (j * plan.query.pageSize)) := by
    rw [List.flatMap_append, flatMap_records_of_complete hvs, List.flatMap_singleton,
      hv.records plan.query.pageSize_pos]
  have hcount : ((vs ++ [v]).flatMap Visit.records).length = report.count := by
    rw [hr, List.length_append, List.length_flatMap, List.length_take,
      Nat.min_eq_left (Nat.min_le_left _ _)]
    rfl
  have hpages : ((vs ++ [v]).flatMap Visit.pages).length = report.pages := by
    rw [List.flatMap_append, List.flatMap_singleton, List.length_append,
      length_flatMap_pages_of_complete hvs, hv.length_pages hj]
    rfl
  have hindices : (vs ++ [v]).map Visit.count = report.indices := by
    rw [List.map_append, map_count_of_complete hvs, List.map_singleton, Visit.count,
      hv.records plan.query.pageSize_pos, List.length_take, Nat.min_eq_left (Nat.min_le_left _ _)]
    rfl
  have hsize : g.progress.table.size = report.count := by
    rw [← hcount]
    exact (Table.size_extend _ _).trans (Nat.zero_add _)
  have hprogress : g.progress.pages = report.pages := (Nat.zero_add _).trans hpages
  have hcounts : g.counts = report.indices := hindices
  refine ⟨?_, ?_, ?_⟩
  · rw [← hr]
    rfl
  · simp only [ExportPlan.report, hsize, hprogress, hcounts]
    rfl
  · show (vs ++ [v]).getLast?.bind (fun v => v.failure.map fun cause =>
      SearchFailure.mk v.index g.progress.table.size cause) = _
    rw [List.getLast?_concat, Option.bind_some, hv.failure, hsize]
    rfl

lemma length_submissions_of_cut {vs : List (Visit Fault)} {v : Visit Fault} {n j : Nat}
    (hvs : ∀ v ∈ vs, IsComplete config q.pageSize v)
    (hv : IsCut config q.pageSize j (.injected n) v)
    (hj : j ≤ (chunks q.pageSize (config.records v.index)).length) :
    (((vs ++ [v]).flatMap (Visit.calls q)).flatMap submissions).length =
      ((vs.map Visit.index).map fun index =>
        (config.records index).length ⌈/⌉ q.pageSize).sum + j := by
  rw [List.flatMap_append, List.flatMap_append, List.length_append,
    length_submissions_of_complete hvs, List.flatMap_singleton, hv.length_submissions hj]

/-- What is gathered if the `n`-th continuation is the `j`-th of an index. -/
lemma gather_of_falls {plan : ExportPlan}
    (hk : ∀ index ∈ plan.query.indices, config.Knows index) {n j : Nat} {earlier : List String}
    {index : String}
    (hl : Falls (fun index => (config.records index).length ⌈/⌉ plan.query.pageSize)
      plan.query.indices n earlier index j) (elapsed : Duration) :
    let g := (service { config with failsOn := some n }).gather plan.query plan.query.indices
      (.start .fresh)
    let report := config.partialReport plan earlier index j elapsed
    g.progress.table = Table.empty.extend (earlier.flatMap config.records ++
        (config.records index).take
          (min (config.records index).length (j * plan.query.pageSize))) ∧
      plan.report g elapsed = report ∧
      g.failure = some ⟨index, report.count, .continuation (.injected n)⟩ ∧
      g.progress.state.submitted.length = n ∧ g.progress.state.contexts = [] := by
  intro g report
  let failing : Config := { config with failsOn := some n }
  simp only [← length_chunks] at hl
  have hk' : ∀ index ∈ plan.query.indices, failing.Knows index := hk
  obtain ⟨vs, v, s', hg, rfl, hvs, rfl, hv, hc⟩ :=
    gathers_of_failing (q := plan.query) hk' rfl hl
  have hg' : g = .ofVisits (.start .fresh) (vs ++ [v]) s' := Service.gather_eq (p := .start _) hg
  have hs : s'.submitted.length = n := by
    rw [(logs_submitted failing plan.query).gathers hg, submitted_fresh, List.nil_append,
      length_submissions_of_cut hvs hv hl.le, hl.eq]
    simp only [length_chunks]
    rfl
  obtain ⟨ht, hr, hf⟩ := ofVisits_of_cut hvs hv hl.le .fresh s' elapsed
  rw [hg']
  exact ⟨ht, hr, hf, hs, hc⟩

/-- Nothing is different if the continuation to fail is not made. -/
lemma gather_of_not_falls {plan : ExportPlan}
    (hk : ∀ index ∈ plan.query.indices, config.Knows index) {n : Nat}
    (hn : ¬ (1 ≤ n ∧ n ≤ (plan.query.indices.map fun index =>
      (config.records index).length ⌈/⌉ plan.query.pageSize).sum)) :
    let g := (service { config with failsOn := some n }).gather plan.query plan.query.indices
      (.start .fresh)
    g.failure = none ∧
      g = (service { config with failsOn := none }).gather plan.query plan.query.indices
        (.start .fresh) := by
  intro g
  simp only [← length_chunks] at hn
  obtain ⟨vs, s', hg, -, hvs, -⟩ := gathers_of_knows (q := plan.query) hk (s := .fresh) rfl
  have hspare : Config.Spares { config with failsOn := some n } .fresh
      (plan.query.indices.map fun index =>
        (chunks plan.query.pageSize (config.records index)).length).sum := by
    intro k hk hk' he
    obtain rfl := Option.some.inj he
    rw [show State.fresh.requests = 0 from rfl] at hk hk'
    exact hn ⟨hk, by omega⟩
  have hg₁ : g = .ofVisits (.start .fresh) vs s' :=
    Service.gather_eq (p := .start _) (hg (some n) hspare)
  have hg₂ := Service.gather_eq (p := .start _) (hg none fun _ _ _ => nofun)
  constructor
  · rw [hg₁]
    exact failure_of_complete hvs .fresh s'
  · rw [hg₁]
    exact hg₂.symm

/-- A service that is told to fail the `n`-th continuation fails the search exactly if so many are
made; if not, nothing is different. If that continuation is the `j`-th of an index, the failure is
about this index, and all records of the indices before it and the first `j` pages of its own are
gathered. They are dropped or written as the plan says, and no scroll stays open. -/
theorem export_interrupted {config : Config} {plan : ExportPlan}
    (hk : ∀ index ∈ plan.query.indices, config.Knows index) (n : Nat) (elapsed : Duration)
    (files : FileTree) :
    let size := plan.query.pageSize
    let requests index := (config.records index).length ⌈/⌉ size
    let total := (plan.query.indices.map requests).sum
    let svc := service { config with failsOn := some n }
    let g := svc.gather plan.query plan.query.indices (.start .fresh)
    let run := svc.export plan elapsed .fresh files
    (g.failure.isSome = true ↔ 1 ≤ n ∧ n ≤ total) ∧
      (plan.policy = .discard ∨ (∀ t ∈ plan.targets, files.IsWritable t.path) →
        (run.1.searchFailure?.isSome = true ↔ 1 ≤ n ∧ n ≤ total)) ∧
      (¬ (1 ≤ n ∧ n ≤ total) →
        run = (service { config with failsOn := none }).export plan elapsed .fresh files) ∧
      (1 ≤ n ∧ n ≤ total →
        ∃ earlier index j, Falls requests plan.query.indices n earlier index j) ∧
      ∀ earlier index j, Falls requests plan.query.indices n earlier index j →
        let table := Table.empty.extend (earlier.flatMap config.records ++
          (config.records index).take (min (config.records index).length (j * size)))
        let report := config.partialReport plan earlier index j elapsed
        let failure : SearchFailure Fault := ⟨index, report.count, .continuation (.injected n)⟩
        g.progress.table = table ∧ plan.report g elapsed = report ∧ g.failure = some failure ∧
          run.2.submitted.length = n ∧ run.2.contexts = [] ∧
          (plan.policy = .discard → run.1 = ⟨.error (.search failure), files⟩) ∧
          (plan.policy = .keep → Target.Written table plan.targets files run.1.files ∧
            ((∀ t ∈ plan.targets, files.IsWritable t.path) →
              run.1.result = .error (.interrupted report failure))) := by
  intro size requests total svc g run
  have hrun : run = (plan.conclude g elapsed files, g.progress.state) := rfl
  have hfails : g.failure.isSome = true ↔ 1 ≤ n ∧ n ≤ total := by
    constructor
    · intro hf
      by_contra hn
      rw [(gather_of_not_falls hk hn).1] at hf
      cases hf
    · rintro ⟨hn, hn'⟩
      obtain ⟨earlier, index, j, hl⟩ := exists_falls hn hn'
      rw [(gather_of_falls hk hl elapsed).2.2.1]
      rfl
  refine ⟨hfails, ?_, ?_, fun hn => exists_falls hn.1 hn.2, ?_⟩
  · intro hpw
    rw [← hfails, hrun, plan.searchFailure?_conclude g elapsed hpw]
  · intro hn
    have hg := (gather_of_not_falls hk hn).2
    change g = _ at hg
    rw [hrun, hg]
    rfl
  · intro earlier index j hl table report failure
    obtain ⟨ht, hr, hf, hs, hc⟩ := gather_of_falls hk hl elapsed
    change g.progress.table = table at ht
    change plan.report g elapsed = report at hr
    change g.failure = some failure at hf
    refine ⟨ht, hr, hf, hs, hc, ?_, ?_⟩
    · intro hp
      rw [hrun, ExportPlan.conclude, hf, hp]
    · intro hp
      rw [hrun, ← ht, ← hr, plan.files_conclude (.inr hp)]
      exact ⟨written_writeTargets .., fun hw => plan.result_conclude_of_keep hf hp elapsed hw⟩

/-- The fourth continuation is the second one of the index that is read again. -/
theorem export_interrupted_at_fourth :
    let range : TimeRange := ⟨"t", "date", none, none⟩
    let query : Query := ⟨["b", "a-1", "a-1"], 2, "1m", range, by decide, by decide, by decide⟩
    let plan : ExportPlan := ⟨query, OutputPaths.standard.targets 44, .keep⟩
    let record id : Record := ⟨id, [("n", .nat 1)], by simp⟩
    let config : Config := ⟨[("a-1", [record "x", record "y", record "z"]), ("b", [])], true, none⟩
    let run := (service { config with failsOn := some 4 }).export plan ⟨1, 0⟩ .fresh
      (FileTree.empty ["home"])
    (∀ index ∈ plan.query.indices, config.Knows index) ∧
      ∃ report, run.1.result =
          .error (.interrupted report ⟨"a-1", 6, .continuation (.injected 4)⟩) ∧
        report.count = 6 ∧ report.pages = 6 ∧
        report.indices = [⟨"b", 0⟩, ⟨"a-1", 3⟩, ⟨"a-1", 3⟩] := by
  intro range query plan record config run
  have hk : ∀ index ∈ plan.query.indices, config.Knows index := by
    simp [plan, query, config, Config.Knows, Keyed.get?]
  have hw : ∀ t ∈ plan.targets, (FileTree.empty ["home"]).IsWritable t.path :=
    isWritable_standard ["home"] 44
  have hl : Falls (fun index => (config.records index).length ⌈/⌉ plan.query.pageSize)
      plan.query.indices 4 ["b", "a-1"] "a-1" 2 :=
    ⟨⟨[], rfl⟩, by decide, by decide, by decide⟩
  obtain ⟨-, -, -, -, hcut⟩ := export_interrupted hk 4 ⟨1, 0⟩ (FileTree.empty ["home"])
  obtain ⟨-, -, -, -, -, -, hkeep⟩ := hcut _ _ 2 hl
  exact ⟨hk, _, (hkeep rfl).2 hw, by decide, by decide, by decide⟩

end ScrollExport.Memory
