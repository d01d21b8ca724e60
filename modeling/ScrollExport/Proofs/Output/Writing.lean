import Mathlib.Tactic.Common
import ScrollExport.Export

/-!
# Writing files

Writing a file makes no folder and removes none, so it takes no path from the other targets and
gives them none: which targets can be written is known before the first of them is.
-/

namespace ScrollExport

namespace FileTree

variable {t t' : FileTree} {path : String} {place : Place}

/-! ### Folders -/

/-- The trees have the same folders, and relative paths start at the same one. -/
structure SameFolders (t t' : FileTree) : Prop where
  workingFolder : t'.workingFolder = t.workingFolder
  folder_iff : ∀ place, t'.entry? place = some .folder ↔ t.entry? place = some .folder

lemma SameFolders.refl (t : FileTree) : SameFolders t t :=
  ⟨rfl, fun _ => Iff.rfl⟩

lemma SameFolders.trans {t'' : FileTree} (h : SameFolders t t') (h' : SameFolders t' t'') :
    SameFolders t t'' :=
  ⟨h'.workingFolder.trans h.workingFolder,
    fun place => (h'.folder_iff place).trans (h.folder_iff place)⟩

lemma lookup_put (t : FileTree) {place : Place} (hp : place ≠ []) (e : FileEntry)
    (place' : Place) :
    entry? (t.put place e) place' = if place' = place then some e else t.entry? place' := by
  unfold entry?
  by_cases h : place' = []
  · have hne : [] ≠ place := hp.symm
    simp [h, hne]
  · simp [h, put]

lemma sameFolders_put_file (hp : place ≠ []) (hf : t.entry? place ≠ some .folder)
    (bytes : List UInt8) : SameFolders t (t.put place (.file bytes)) where
  workingFolder := rfl
  folder_iff place' := by
    rw [lookup_put t hp]
    split_ifs with h
    · simp [h, hf]
    · rfl

/-! ### Paths -/

lemma walk_cons_eq_ok_iff {here : Place} {name : String} {rest : List String}
    (hn : name ≠ "..") :
    t.walk here (name :: rest) = .ok place ↔
      name.utf8ByteSize ≤ Path.nameLimit ∧ t.entry? (here ++ [name]) = some .folder ∧
        t.walk (here ++ [name]) rest = .ok place := by
  rw [walk.eq_def]
  split
  · simp_all
  · simp_all
  · rename_i heq
    obtain ⟨rfl, rfl⟩ := List.cons.inj heq
    split_ifs with hl
    · simp
      omega
    · split <;> simp_all

lemma SameFolders.walk_eq_ok_iff (h : SameFolders t t') {here : Place} {names : List String} :
    t'.walk here names = .ok place ↔ t.walk here names = .ok place := by
  induction names generalizing here with
  | nil => rfl
  | cons name rest ih =>
    by_cases hn : name = ".."
    · subst hn
      exact ih
    · rw [walk_cons_eq_ok_iff hn, walk_cons_eq_ok_iff hn, h.folder_iff, ih]

/-- When a file can be made at a path, and where. -/
lemma target_eq_ok_iff :
    t.target path = .ok place ↔
      path.toList.contains '\x00' = false ∧ path ≠ "" ∧ path.utf8ByteSize ≤ Path.pathLimit ∧
        ∃ last folder, (Path.pieces path).getLast? = some last ∧
          t.walk (t.origin path) ((Path.pieces path).dropLast.filter (· ≠ ".")) = .ok folder ∧
          path.toList.getLast? ≠ some '/' ∧ last ≠ "." ∧ last ≠ ".." ∧
          last.utf8ByteSize ≤ Path.nameLimit ∧
          t.entry? (folder ++ [last]) ≠ some .folder ∧ folder ++ [last] = place := by
  simp only [target, bind, Except.bind, throw, throwThe, MonadExceptOf.throw, pure, Except.pure]
  split_ifs with hn he hl
  · simp_all
  · simp [he]
  · simp
    omega
  · cases hg : (Path.pieces path).getLast? with
    | none => simp
    | some last =>
      cases hw : t.walk (t.origin path) ((Path.pieces path).dropLast.filter (· ≠ ".")) with
      | error e => simp
      | ok folder =>
        dsimp only
        split_ifs with hs hb
        · simp only [Bool.or_eq_true, decide_eq_true_eq] at hs
          rcases hs with (hs | hs) | hs <;> simp_all
        · simp
          omega
        · split <;> simp_all

lemma SameFolders.target_eq_ok_iff (h : SameFolders t t') :
    t'.target path = .ok place ↔ t.target path = .ok place := by
  have ho : t'.origin path = t.origin path := by simp [origin, h.workingFolder]
  simp only [FileTree.target_eq_ok_iff, ho, h.walk_eq_ok_iff, ne_eq, h.folder_iff]

/-- Whether a file can be made at a path. -/
def IsWritable (t : FileTree) (path : String) : Prop :=
  ∃ place, t.target path = .ok place

lemma SameFolders.isWritable_iff (h : SameFolders t t') :
    t'.IsWritable path ↔ t.IsWritable path := by
  simp only [IsWritable, h.target_eq_ok_iff]

/-- Nothing is in the working folder of an empty tree. -/
lemma lookup_empty (folder : Place) (name : String) :
    entry? (empty folder) (folder ++ [name]) = none := by
  unfold entry?
  rw [if_neg (by simp), Keyed.get?_eq_none_iff]
  intro hm
  obtain ⟨_, he, hp⟩ := List.mem_map.1 hm
  obtain ⟨n, -, rfl⟩ := List.mem_map.1 he
  have hl := congrArg List.length hp
  simp only [List.length_take, List.length_append, List.length_singleton] at hl
  omega

lemma sameFolders_of_write {bytes : List UInt8} (h : t.write path bytes = .ok t') :
    SameFolders t t' := by
  cases ht : t.target path with
  | error e => simp [write, ht, Except.map] at h
  | ok place =>
    obtain rfl : t.put place (.file bytes) = t' := by simpa [write, ht, Except.map] using h
    obtain ⟨-, -, -, last, folder, -, -, -, -, -, -, hf, rfl⟩ := FileTree.target_eq_ok_iff.1 ht
    exact sameFolders_put_file (by simp) hf bytes

end FileTree

/-! ### Targets -/

open FileTree (IsWritable SameFolders)

/-- The standard files can be made in the working folder of an empty tree. -/
lemma isWritable_standard (folder : Place) (delimiter : UInt8) :
    ∀ t ∈ OutputPaths.standard.targets delimiter, (FileTree.empty folder).IsWritable t.path := by
  have hp : ∀ path ∈ ["object.json", "object.csv", "objectrocket.html"],
      (FileTree.empty folder).IsWritable path := by
    intro path hm
    simp only [List.mem_cons, List.not_mem_nil, or_false] at hm
    refine ⟨folder ++ [path], FileTree.target_eq_ok_iff.2 ?_⟩
    rcases hm with rfl | rfl | rfl <;>
      exact ⟨by decide, by decide, by decide, _, folder, rfl, rfl, by decide, by decide,
        by decide, by decide, by simp [FileTree.lookup_empty], rfl⟩
  intro t ht
  exact hp _ (List.mem_map_of_mem ht)

lemma Target.write_of_isWritable {t : Target} {files : FileTree} (h : files.IsWritable t.path)
    (table : Table) : ∃ files', t.write table files = .ok files' ∧ SameFolders files files' := by
  obtain ⟨place, hp⟩ := h
  have hw : files.write t.path (t.format.serialize table) =
      .ok (files.put place (.file (t.format.serialize table))) := by
    simp [FileTree.write, hp, Except.map]
  exact ⟨_, by rw [Target.write, hw], FileTree.sameFolders_of_write hw⟩

lemma Target.write_of_not_isWritable {t : Target} {files : FileTree}
    (h : ¬ files.IsWritable t.path) (table : Table) :
    ∃ e, t.write table files =
      .error ⟨t.format.name, t.path, creationFailure t.path e⟩ := by
  cases hp : files.target t.path with
  | error e => exact ⟨e, by simp [Target.write, FileTree.write, hp, Except.map]⟩
  | ok place => exact absurd ⟨place, hp⟩ h

/-- Writing makes no folder and removes none, whatever becomes of the single targets. -/
theorem sameFolders_writeTargets (table : Table) (targets : List Target) (files : FileTree) :
    SameFolders files (writeTargets table targets files).2 := by
  induction targets generalizing files with
  | nil => exact .refl files
  | cons t rest ih =>
    by_cases h : files.IsWritable t.path
    · obtain ⟨files', hw, hs⟩ := Target.write_of_isWritable h table
      rw [writeTargets, hw]
      exact hs.trans (ih files')
    · obtain ⟨e, hw⟩ := Target.write_of_not_isWritable h table
      rw [writeTargets, hw]
      exact ih files

/-- All targets are written exactly if each of them could be written at the start. -/
theorem writeTargets_eq_nil_iff (table : Table) (targets : List Target) (files : FileTree) :
    (writeTargets table targets files).1 = [] ↔ ∀ t ∈ targets, files.IsWritable t.path := by
  induction targets generalizing files with
  | nil => simp [writeTargets]
  | cons t rest ih =>
    by_cases h : files.IsWritable t.path
    · obtain ⟨files', hw, hs⟩ := Target.write_of_isWritable h table
      simp only [writeTargets, hw, ih, List.forall_mem_cons, h, hs.isWritable_iff, true_and]
    · obtain ⟨e, hw⟩ := Target.write_of_not_isWritable h table
      simp [writeTargets, hw, h]

end ScrollExport
