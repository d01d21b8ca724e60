import ScrollExport.Proofs.Output.Writing
import ScrollExport.Proofs.Scroll.Outcome

/-!
# Effects of an export on the files

What an export leaves in the file tree. The targets that can be written are known from the tree
before the export (`FileTree.Admits`); each of them gets its serialization, a later target replaces
an earlier one at the same place, and nothing else changes (`Target.Written`).
-/

namespace ScrollExport

variable {σ ε : Type}

namespace FileTree

variable {t t' : FileTree} {path : String} {place folder : Place} {name : String}

/-! ### Paths that can be created -/

/-- A file of this name can be made in the folder to which the rest of the path leads: the folder is
there, and it holds no folder of that name. -/
structure Admits (t : FileTree) (path : String) (folder : Place) (name : String) : Prop where
  noNul : path.toList.contains '\x00' = false
  ne_empty : path ≠ ""
  length : path.utf8ByteSize ≤ Path.pathLimit
  last : (Path.pieces path).getLast? = some name
  parent : t.walk (t.origin path) ((Path.pieces path).dropLast.filter (· ≠ ".")) = .ok folder
  noSlash : path.toList.getLast? ≠ some '/'
  named : name ≠ "." ∧ name ≠ ".."
  nameLength : name.utf8ByteSize ≤ Path.nameLimit
  notFolder : t.entry? (folder ++ [name]) ≠ some .folder

lemma target_eq_ok_iff_admits :
    t.target path = .ok place ↔
      ∃ folder name, t.Admits path folder name ∧ folder ++ [name] = place := by
  rw [target_eq_ok_iff]
  constructor
  · rintro ⟨hn, he, hl, name, folder, hlast, hw, hs, hd, hdd, hk, hf, rfl⟩
    exact ⟨folder, name, ⟨hn, he, hl, hlast, hw, hs, ⟨hd, hdd⟩, hk, hf⟩, rfl⟩
  · rintro ⟨folder, name, ⟨hn, he, hl, hlast, hw, hs, ⟨hd, hdd⟩, hk, hf⟩, rfl⟩
    exact ⟨hn, he, hl, name, folder, hlast, hw, hs, hd, hdd, hk, hf, rfl⟩

theorem isWritable_iff_admits : t.IsWritable path ↔ ∃ folder name, t.Admits path folder name := by
  simp only [IsWritable, target_eq_ok_iff_admits]
  constructor
  · rintro ⟨place, folder, name, ha, -⟩
    exact ⟨folder, name, ha⟩
  · rintro ⟨folder, name, ha⟩
    exact ⟨_, folder, name, ha, rfl⟩

instance (t : FileTree) (path : String) : Decidable (t.IsWritable path) :=
  decidable_of_iff ((t.target path).isOk = true) (by
    unfold IsWritable
    cases t.target path <;> simp [Except.isOk, Except.toBool])

/-- The names of a path that can be created are those of its folder, and its own. -/
lemma Admits.names (h : t.Admits path folder name) :
    Path.names path = (Path.pieces path).dropLast.filter (· ≠ ".") ++ [name] := by
  obtain ⟨init, hp⟩ := List.getLast?_eq_some_iff.1 h.last
  simp [Path.names, hp, h.named.1]

/-- What stands at the place of a path is found at the path. -/
lemma find_of_admits (h : t.Admits path folder name) (hs : SameFolders t t') {bytes : List UInt8}
    (he : t'.entry? (folder ++ [name]) = some (.file bytes)) :
    t'.find path = .ok (.file bytes) := by
  have ho : t'.origin path = t.origin path := by simp [origin, hs.workingFolder]
  have hw : t'.walk (t'.origin path) (Path.names path).dropLast = .ok folder := by
    rw [ho, h.names, List.dropLast_concat]
    exact hs.walk_eq_ok_iff.2 h.parent
  have hl : (Path.names path).getLast? = some name := by simp [h.names]
  simp only [find, bind, Except.bind, throw, throwThe, MonadExceptOf.throw, pure, Except.pure,
    h.noNul, Bool.false_eq_true, if_false, h.ne_empty, Nat.not_lt.2 h.length, hw, hl]
  split
  · rename_i hn
    cases hn
  · rename_i hn
    exact absurd (Option.some.inj hn) h.named.2
  · rename_i hn
    obtain rfl := Option.some.inj hn
    rw [if_neg (Nat.not_lt.2 h.nameLength), he]
    exact if_neg h.noSlash

lemma read?_of_target (h : t.target path = .ok place) (hs : SameFolders t t') {bytes : List UInt8}
    (he : t'.entry? place = some (.file bytes)) : t'.read? path = some bytes := by
  obtain ⟨folder, name, ha, rfl⟩ := target_eq_ok_iff_admits.1 h
  simp [read?, find_of_admits ha hs he]

end FileTree

open FileTree (Admits SameFolders)

/-! ### Written trees -/

/-- The tree `files'` is `files` with a table written to targets in order: a place to which targets
lead holds the serialization of the last of them, and no other place has changed. -/
structure Target.Written (table : Table) (targets : List Target) (files files' : FileTree) :
    Prop where
  workingFolder : files'.workingFolder = files.workingFolder
  holds : ∀ {before : List Target} {t : Target} {after : List Target} {place : Place},
    targets = before ++ t :: after → files.target t.path = .ok place →
    (∀ t' ∈ after, files.target t'.path ≠ .ok place) →
      files'.entry? place = some (.file (t.format.serialize table)) ∧
        files'.read? t.path = some (t.format.serialize table)
  untouched : ∀ {place : Place}, (∀ t ∈ targets, files.target t.path ≠ .ok place) →
    files'.entry? place = files.entry? place

namespace Target

variable {t : Target} {targets : List Target} {files files' : FileTree} {table : Table}
  {place : Place}

lemma write_of_target (h : files.target t.path = .ok place) (table : Table) :
    t.write table files = .ok (files.put place (.file (t.format.serialize table))) := by
  simp [Target.write, FileTree.write, h, Except.map]

lemma place_ne_nil (h : files.target t.path = .ok place) : place ≠ [] := by
  obtain ⟨folder, name, -, rfl⟩ := FileTree.target_eq_ok_iff_admits.1 h
  simp

lemma sameFolders_put_of_target (h : files.target t.path = .ok place) (bytes : List UInt8) :
    SameFolders files (files.put place (.file bytes)) := by
  have hw : files.write t.path bytes = .ok (files.put place (.file bytes)) := by
    simp [FileTree.write, h, Except.map]
  exact FileTree.sameFolders_of_write hw

/-- A target that cannot be created changes nothing. -/
lemma Written.skip (h : ¬ files.IsWritable t.path) (hw : Written table targets files files') :
    Written table (t :: targets) files files' where
  workingFolder := hw.workingFolder
  holds := by
    rintro (_ | ⟨t', before⟩) t₁ after place ht hp ha
    · obtain ⟨rfl, -⟩ := List.cons.inj ht
      exact absurd ⟨place, hp⟩ h
    · exact hw.holds (List.cons.inj ht).2 hp ha
  untouched hp := hw.untouched (List.forall_mem_cons.1 hp).2

/-- A target that is written first keeps what it got, unless a later one leads to its place. -/
lemma Written.cons (h : files.target t.path = .ok place) (hs : SameFolders files files')
    (hw : Written table targets (files.put place (.file (t.format.serialize table))) files') :
    Written table (t :: targets) files files' := by
  have hne : place ≠ [] := place_ne_nil h
  have hs₁ := sameFolders_put_of_target h (t.format.serialize table)
  constructor
  · exact hw.workingFolder
  · rintro (_ | ⟨t', before⟩) t₁ after place₁ ht hp ha
    · obtain ⟨rfl, rfl⟩ := List.cons.inj ht
      obtain rfl : place = place₁ := by simpa [h] using hp
      have he : files'.entry? place = some (.file (t.format.serialize table)) := by
        rw [hw.untouched fun t' ht' => mt hs₁.target_eq_ok_iff.1 (ha t' ht'),
          FileTree.lookup_put _ hne, if_pos rfl]
      exact ⟨he, FileTree.read?_of_target h hs he⟩
    · exact hw.holds (List.cons.inj ht).2 (hs₁.target_eq_ok_iff.2 hp) fun t' ht' =>
        mt hs₁.target_eq_ok_iff.1 (ha t' ht')
  · intro place₁ hp
    obtain ⟨hp₁, hpr⟩ := List.forall_mem_cons.1 hp
    have hne₁ : place₁ ≠ place := by
      rintro rfl
      exact hp₁ h
    rw [hw.untouched fun t' ht' => mt hs₁.target_eq_ok_iff.1 (hpr t' ht'),
      FileTree.lookup_put _ hne, if_neg hne₁]

end Target

/-- A table is written to all of its targets that can be created, one after the other. -/
theorem written_writeTargets (table : Table) (targets : List Target) (files : FileTree) :
    Target.Written table targets files (writeTargets table targets files).2 := by
  induction targets generalizing files with
  | nil => exact ⟨rfl, by simp, fun _ => rfl⟩
  | cons t rest ih =>
    have hs := sameFolders_writeTargets table (t :: rest) files
    by_cases h : files.IsWritable t.path
    · obtain ⟨place, hp⟩ := h
      rw [writeTargets, Target.write_of_target hp] at hs ⊢
      exact .cons hp hs (ih _)
    · obtain ⟨e, hw⟩ := Target.write_of_not_isWritable h table
      rw [writeTargets, hw]
      exact .skip h (ih files)

/-- The failures are those of the targets that cannot be created, in their order. -/
theorem failures_writeTargets (table : Table) (targets : List Target) (files : FileTree) :
    (writeTargets table targets files).1.map (fun f => OutputFile.mk f.format f.path) =
      (targets.filter fun t => ¬ files.IsWritable t.path).map Target.output := by
  induction targets generalizing files with
  | nil => rfl
  | cons t rest ih =>
    by_cases h : files.IsWritable t.path
    · obtain ⟨files', hw, hs⟩ := Target.write_of_isWritable h table
      simp only [writeTargets, hw, ih, List.filter_cons, h, hs.isWritable_iff, not_true,
        decide_false, Bool.false_eq_true, if_false]
    · obtain ⟨e, hw⟩ := Target.write_of_not_isWritable h table
      simp only [writeTargets, hw, List.map_cons, ih, List.filter_cons, h, not_false_iff,
        decide_true, if_true]
      rfl

/-- The targets that cannot be created do not count. -/
theorem writeTargets_filter (table : Table) (targets : List Target) (files : FileTree) :
    (writeTargets table (targets.filter fun t => files.IsWritable t.path) files).2 =
      (writeTargets table targets files).2 := by
  induction targets generalizing files with
  | nil => rfl
  | cons t rest ih =>
    by_cases h : files.IsWritable t.path
    · obtain ⟨files', hw, hs⟩ := Target.write_of_isWritable h table
      have hf := ih files'
      simp only [hs.isWritable_iff] at hf
      simp only [List.filter_cons, h, decide_true, if_true, writeTargets, hw, hf]
    · obtain ⟨e, hw⟩ := Target.write_of_not_isWritable h table
      simp only [List.filter_cons, h, decide_false, Bool.false_eq_true, if_false, ih,
        writeTargets, hw]

/-! ### Exports -/

/-- What an export writes without a failed search, and what it then tells. -/
lemma ExportPlan.conclude_of_failure_eq_none (plan : ExportPlan) {g : Gathered σ ε}
    (hf : g.failure = none) (elapsed : Duration) (files : FileTree) :
    let written := writeTargets g.progress.table plan.targets files
    plan.conclude g elapsed files =
      ⟨if written.1 = [] then .ok (plan.report g elapsed) else .error (.files written.1),
        written.2⟩ := by
  simp only [conclude, hf]

lemma ExportPlan.files_conclude (plan : ExportPlan) {g : Gathered σ ε}
    (h : g.failure = none ∨ plan.policy = .keep) (elapsed : Duration) (files : FileTree) :
    (plan.conclude g elapsed files).files =
      (writeTargets g.progress.table plan.targets files).2 := by
  cases hf : g.failure with
  | none => rw [plan.conclude_of_failure_eq_none hf]
  | some failure =>
    have hp : plan.policy = .keep := h.resolve_left (by simp [hf])
    simp only [conclude, hf, hp]

lemma ExportPlan.files_conclude_of_discard (plan : ExportPlan) {g : Gathered σ ε}
    (hf : g.failure ≠ none) (hp : plan.policy = .discard) (elapsed : Duration)
    (files : FileTree) : (plan.conclude g elapsed files).files = files := by
  obtain ⟨failure, hf⟩ := Option.ne_none_iff_exists'.1 hf
  simp only [conclude, hf, hp]

/-- A failed search that is written ends with its report, if all targets can be created. -/
lemma ExportPlan.result_conclude_of_keep (plan : ExportPlan) {g : Gathered σ ε}
    {failure : SearchFailure ε} (hf : g.failure = some failure) (hp : plan.policy = .keep)
    (elapsed : Duration) {files : FileTree} (hw : ∀ t ∈ plan.targets, files.IsWritable t.path) :
    (plan.conclude g elapsed files).result =
      .error (.interrupted (plan.report g elapsed) failure) := by
  simp only [conclude, hf, hp, (writeTargets_eq_nil_iff g.progress.table _ _).2 hw, if_true]

/-- A failed search is told if what was gathered is dropped, or can be written. -/
theorem ExportPlan.searchFailure?_conclude (plan : ExportPlan) (g : Gathered σ ε)
    (elapsed : Duration) {files : FileTree}
    (h : plan.policy = .discard ∨ ∀ t ∈ plan.targets, files.IsWritable t.path) :
    (plan.conclude g elapsed files).searchFailure? = g.failure := by
  cases hp : plan.policy with
  | discard => exact plan.searchFailure?_conclude_of_discard hp g elapsed files
  | keep =>
    have hw := h.resolve_left (by simp [hp])
    cases hf : g.failure with
    | none =>
      rw [plan.conclude_of_failure_eq_none hf, (writeTargets_eq_nil_iff _ _ _).2 hw]
      rfl
    | some failure =>
      simp only [Outcome.searchFailure?, plan.result_conclude_of_keep hf hp elapsed hw]

/-- The tree stays as it is if the connection is refused, and if a request fails and what was
gathered is dropped. Otherwise the targets get the gathered table, each as if the others that cannot
be created were not there. Unless a request failed, an export ends with a report exactly if all
targets can be created, and else its error lists those that cannot. -/
theorem Service.files_connectAndExport (svc : Service σ ε)
    (connect : σ → Except ConnectionError Unit × σ) (plan : ExportPlan) (elapsed : Duration)
    (s : σ) (files : FileTree) :
    let run := (svc.connectAndExport connect plan elapsed s files).1
    (∀ cause, (connect s).1 = .error cause →
      run.files = files ∧ run.result = .error (.connection cause)) ∧
    ((connect s).1 = .ok () →
      ∃ visited s', svc.Gathers plan.query plan.query.indices (connect s).2 visited s' ∧
        let table := Table.empty.extend (visited.flatMap Visit.records)
        let failed := ∃ v ∈ visited, v.failure ≠ none
        (failed → plan.policy = .discard → run.files = files) ∧
        (¬ failed ∨ plan.policy = .keep →
          Target.Written table plan.targets files run.files ∧
          run.files = (writeTargets table
            (plan.targets.filter fun t => files.IsWritable t.path) files).2) ∧
        (¬ failed →
          ((∃ report, run.result = .ok report) ↔ ∀ t ∈ plan.targets, files.IsWritable t.path) ∧
          ((¬ ∃ report, run.result = .ok report) → ∃ failures,
            run.result = .error (.files failures) ∧
            failures.map (fun f => OutputFile.mk f.format f.path) =
              (plan.targets.filter fun t => ¬ files.IsWritable t.path).map Target.output))) ∧
    ∀ path, files.IsWritable path ↔ ∃ folder name, files.Admits path folder name := by
  intro run
  refine ⟨?_, ?_, fun path => FileTree.isWritable_iff_admits⟩
  · intro cause hc
    have hrun : run = ⟨.error (.connection cause), files⟩ := by
      simp only [run, connectAndExport]
      split <;> simp_all
    rw [hrun]
    exact ⟨rfl, rfl⟩
  · intro hc
    obtain ⟨visited, s', hg⟩ := svc.exists_gathers plan.query plan.query.indices (connect s).2
    let g : Gathered σ ε := .ofVisits (.start (connect s).2) visited s'
    have hrun : run = plan.conclude g elapsed files := by
      have he := congrArg Prod.fst (export_eq hg elapsed files)
      simp only [run, connectAndExport]
      split <;> simp_all [g]
    have hn : g.failure = none ↔ ¬ ∃ v ∈ visited, v.failure ≠ none := by
      have hv := hg.failure_eq_none_iff
      cases hl : visited.getLast? with
      | none => simp_all [g, Gathered.ofVisits]
      | some v => simp_all [g, Gathered.ofVisits]
    refine ⟨visited, s', hg, ?_, ?_, ?_⟩
    · intro hf hp
      rw [hrun]
      exact plan.files_conclude_of_discard (fun h => hn.1 h hf) hp elapsed files
    · intro h
      have hfiles := plan.files_conclude (h.imp_left hn.2) elapsed files
      rw [hrun, hfiles]
      exact ⟨written_writeTargets .., (writeTargets_filter ..).symm⟩
    · intro hf
      have hc := plan.conclude_of_failure_eq_none (hn.2 hf) elapsed files
      rw [hrun, hc, ← writeTargets_eq_nil_iff g.progress.table]
      by_cases hw : (writeTargets g.progress.table plan.targets files).1 = []
      · simp [hw]
      · simp only [hw, if_false, reduceCtorEq, exists_false, not_false_iff, true_and, true_imp_iff]
        exact ⟨_, rfl, failures_writeTargets ..⟩

end ScrollExport
