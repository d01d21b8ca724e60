import ScrollExport.Proofs.Config.Layering
import ScrollExport.Proofs.Text.Pieces
import ScrollExport.Proofs.Text.Span

/-!
# Files of run modes

The file of a run mode has the extension in place of what follows the last dot of the name, unless
the dot comes first (`filePath_eq`). So run modes that differ after their last dot alone have one
file, and a run mode has a file of its own name exactly if it has no such dot
(`Sources.resolve_runMode`).
-/

namespace ScrollExport

/-! ### Paths -/

namespace Path

/-- A name of a file in a folder: it is not empty, has no slash and is none of the dots that lead
through folders. -/
structure IsFileName (name : String) : Prop where
  ne_empty : name ≠ ""
  ne_dot : name ≠ "."
  ne_dots : name ≠ ".."
  slash_notMem : '/' ∉ name.toList

lemma isAbsolute_of_notMem {name : String} (h : '/' ∉ name.toList) : isAbsolute name = false := by
  rw [isAbsolute, decide_eq_false_iff_not]
  exact fun hhead => h (List.mem_of_mem_head? hhead)

/-- A name in a folder stands alone or after a slash. -/
lemma join_cases (folder : String) :
    (∀ name, '/' ∉ name.toList → join folder name = name) ∨
      ∃ above, ∀ name, '/' ∉ name.toList → join folder name = above ++ "/" ++ name := by
  by_cases he : folder = ""
  · exact .inl fun name _ => by simp [join, he]
  · refine .inr ?_
    by_cases hl : folder.toList.getLast? = some '/'
    · obtain ⟨above, ha⟩ := List.getLast?_eq_some_iff.1 hl
      refine ⟨String.ofList above, fun name h => ?_⟩
      have hfolder : folder = String.ofList above ++ "/" := by
        rw [← String.toList_inj, ha]
        simp
      rw [join, isAbsolute_of_notMem h, if_neg (by simpa using he), if_pos hl, hfolder]
    · refine ⟨folder, fun name h => ?_⟩
      rw [join, isAbsolute_of_notMem h, if_neg (by simpa using he), if_neg hl]

lemma join_inj {folder name name' : String} (h : '/' ∉ name.toList) (h' : '/' ∉ name'.toList) :
    join folder name = join folder name' ↔ name = name' := by
  refine ⟨fun he => ?_, fun he => he ▸ rfl⟩
  rcases join_cases folder with hj | ⟨above, hj⟩
  · rwa [hj name h, hj name' h'] at he
  · rw [hj name h, hj name' h'] at he
    exact String.append_right_inj _ |>.1 he

lemma intercalate_split (path : String) : "/".intercalate (Text.split '/' path) = path := by
  have hid : String.toList ∘ String.ofList = id := funext fun cs => String.toList_ofList
  rw [← String.toList_inj, String.toList_intercalate, Text.split, List.map_map, hid, List.map_id]
  exact Text.intercalate_splitChars '/' path.toList

/-- The last piece of a path is the name that was joined to it. -/
lemma exists_split_join (folder : String) :
    ∃ pieces, ∀ name, '/' ∉ name.toList → Text.split '/' (join folder name) = pieces ++ [name] := by
  rcases join_cases folder with hj | ⟨above, hj⟩
  · refine ⟨[], fun name h => ?_⟩
    rw [hj name h, Text.split, Text.splitChars_of_notMem h, List.map_singleton,
      String.ofList_toList, List.nil_append]
  · refine ⟨Text.split '/' above, fun name h => ?_⟩
    have hlist : (above ++ "/" ++ name).toList = above.toList ++ '/' :: name.toList := by simp
    rw [hj name h, Text.split, hlist, Text.splitChars_append_cons, Text.splitChars_of_notMem h,
      List.map_append, List.map_singleton, String.ofList_toList, Text.split]

end Path

namespace Config

open ScrollExport.Path (IsFileName)

variable {formats : Formats}

/-! ### Stems -/

/-- A name has no dot after its first character, or it is its stem with a dot and more after it. -/
lemma stem_cases (name : String) :
    '.' ∉ name.toList.tail ∧ stem name = name ∨
      ∃ after, name.toList = (stem name).toList ++ '.' :: after ∧ (stem name).toList ≠ [] := by
  let last := (name.toList.reverse.takeWhile (· ≠ '.')).reverse
  have hlast : '.' ∉ last := by
    intro hm
    simpa using List.mem_takeWhile_imp (List.mem_reverse.1 hm)
  have hname : name.toList = (name.toList.reverse.dropWhile (· ≠ '.')).reverse ++ last := by
    rw [← List.reverse_append, List.takeWhile_append_dropWhile, List.reverse_reverse]
  have hdot : ∀ c ∈ (name.toList.reverse.dropWhile (· ≠ '.')).head?, decide (c ≠ '.') = false :=
    Text.head?_dropWhile
  rw [stem]
  generalize hrest : name.toList.reverse.dropWhile (· ≠ '.') = rest at hname hdot
  match rest with
  | [] => exact .inl ⟨by simpa [hname] using fun hm => hlast (List.mem_of_mem_tail hm), rfl⟩
  | [c] => exact .inl ⟨by simpa [hname] using hlast, rfl⟩
  | c :: d :: before =>
    obtain rfl : c = '.' := by simpa using hdot c rfl
    refine .inr ⟨last, ?_, by simp⟩
    rw [hname]
    simp

theorem stem_eq_self_iff (name : String) : stem name = name ↔ '.' ∉ name.toList.tail := by
  rcases stem_cases name with ⟨hdot, he⟩ | ⟨after, he, hne⟩
  · exact iff_of_true he hdot
  · refine iff_of_false (fun hs => ?_) (fun hdot => hdot ?_)
    · rw [hs] at he
      simpa using congrArg List.length he
    · obtain ⟨c, cs, hc⟩ := List.exists_cons_of_ne_nil hne
      rw [he, hc]
      simp

lemma slash_notMem_stem {name : String} (h : '/' ∉ name.toList) : '/' ∉ (stem name).toList := by
  rcases stem_cases name with ⟨-, he⟩ | ⟨after, he, -⟩
  · rwa [he]
  · intro hm
    rw [he] at h
    exact h (List.mem_append_left _ hm)

lemma slash_notMem_append {name : String} (h : '/' ∉ name.toList) :
    '/' ∉ (name ++ ".toml").toList := by
  simpa using h

/-! ### Files -/

lemma dropTrailing_concat {name : String} (h : IsFileName name) (pieces : List String) :
    dropTrailing (pieces ++ [name]) = pieces ++ [name] := by
  have hdrop : ((pieces ++ [name]).reverse.dropWhile fun p => p = "" || p = ".") =
      (pieces ++ [name]).reverse := by
    simp [h.ne_empty, h.ne_dot]
  rw [dropTrailing, hdrop, List.reverse_reverse]
  split
  · rename_i hnil
    simp at hnil
  · rfl

/-- The file of a name in a folder has the stem of the name, with the extension. -/
theorem filePath_eq (folder : String) {name : String} (h : IsFileName name) :
    filePath folder name = Path.join folder (stem name ++ ".toml") := by
  obtain ⟨pieces, hsplit⟩ := Path.exists_split_join folder
  have hpieces := hsplit _ (slash_notMem_append (slash_notMem_stem h.slash_notMem))
  have hne : ¬ (name = "" ∨ name = "." ∨ name = "..") := by
    simp [h.ne_empty, h.ne_dot, h.ne_dots]
  rw [filePath, withExtension, hsplit name h.slash_notMem, dropTrailing_concat h,
    List.getLast?_concat]
  dsimp only
  rw [if_neg (by simpa [or_assoc] using hne), List.dropLast_concat, extension, ← hpieces,
    Path.intercalate_split]

/-- If a file is there, the layer is its own, and no other format is tried. -/
lemma isFileLayer_of_read? {files : FileTree} {path : String} {bytes : List UInt8}
    (h : files.read? path = some bytes) {layer : Entries} :
    IsFileLayer formats files path layer ↔ layerOf tomlReader path bytes = .ok layer := by
  have hfind : formats.find? files path = some ⟨path, .toml, bytes⟩ := by
    simp [Formats.find?, Formats.candidates, h]
  simp [IsFileLayer, hfind, Formats.layer, Formats.reader]

namespace Sources

/-- The file of a name in one of the folders. -/
def file (s : Sources) (sub name : String) : String :=
  Path.join (Path.join s.folder sub) (name ++ ".toml")

variable {s : Sources} {env : Environment} {files : FileTree} {mode : String}

lemma filePath_join (s : Sources) (sub : String) {name : String} (h : IsFileName name) :
    filePath (Path.join s.folder sub) name = s.file sub (stem name) :=
  filePath_eq _ h

lemma isFileName_default : IsFileName "default" := by
  constructor <;> decide

lemma isFileName_local : IsFileName "local" := by
  constructor <;> decide

lemma file_inj {sub name name' : String} (h : '/' ∉ name.toList) (h' : '/' ∉ name'.toList) :
    s.file sub name = s.file sub name' ↔ name = name' := by
  rw [file, file, Path.join_inj (slash_notMem_append h) (slash_notMem_append h')]
  exact String.append_left_inj _

/-- The layers of a folder with a run mode: of its default file, of the file with the stem of the
run mode, and of its local file. -/
def IsModeFolder (s : Sources) (formats : Formats) (files : FileTree) (mode sub : String)
    (layers : List Entries) : Prop :=
  ∃ default' layer local', IsFileLayer formats files (s.file sub "default") default' ∧
    IsFileLayer formats files (s.file sub (stem mode)) layer ∧
    IsOptionalLayer formats files (s.file sub "local") local' ∧ layers = [default', layer, local']

lemma isFolder_iff (h : IsFileName mode) {sub : String} {layers : List Entries} :
    IsFolder formats files (Path.join s.folder sub) (some mode) layers ↔
      s.IsModeFolder formats files mode sub layers := by
  have hdefault : filePath (Path.join s.folder sub) "default" = s.file sub "default" :=
    filePath_join s sub isFileName_default
  have hlocal : filePath (Path.join s.folder sub) "local" = s.file sub "local" :=
    filePath_join s sub isFileName_local
  rw [IsModeFolder, ← hdefault, ← hlocal, ← filePath_join s sub h]
  constructor
  · rintro (_ | ⟨hd, hm, hl⟩)
    exact ⟨_, _, _, hd, hm, hl, rfl⟩
  · rintro ⟨default', layer, local', hd, hm, hl, rfl⟩
    exact .mode hd hm hl

/-- With a run mode that is the name of a file, each folder has the layer of the file with the stem
of the run mode, and nothing is resolved if that is missing in all formats. It is the file of the
run mode's own name exactly if this has no dot after its first character, and two run modes have one
file exactly if they have one stem. -/
theorem resolve_runMode (hm : IsFileName mode)
    (he : (env.lookup "RUN_MODE").or s.runMode = some mode) (files : FileTree)
    (formats : Formats) :
    (∀ v, s.resolve env files formats = .ok v ↔
      ∃ folders overrides, List.Forall₂ (s.IsModeFolder formats files mode) s.subfolders folders ∧
        ofOverrides s.overrides = .ok overrides ∧
        v = ofLayers
          (folders.flatten ++ [environmentLayer env s.namePrefix, overrides.entries])) ∧
    (∀ sub bytes layer, files.read? (s.file sub (stem mode)) = some bytes →
      (IsFileLayer formats files (s.file sub (stem mode)) layer ↔
        layerOf tomlReader (s.file sub (stem mode)) bytes = .ok layer)) ∧
    (∀ sub ∈ s.subfolders, IsMissing files (s.file sub (stem mode)) →
      ∃ e, s.resolve env files formats = .error e) ∧
    (∀ sub, s.file sub (stem mode) = s.file sub mode ↔ '.' ∉ mode.toList.tail) ∧
    ∀ sub mode', IsFileName mode' →
      (s.file sub (stem mode) = s.file sub (stem mode') ↔ stem mode = stem mode') := by
  have hstem := slash_notMem_stem hm.slash_notMem
  refine ⟨fun v => ?_, fun sub bytes layer h => isFileLayer_of_read? h, ?_, fun sub => ?_, ?_⟩
  · simp only [resolve_eq_ok_iff, IsLayering, he]
    constructor
    · rintro ⟨layers, ⟨folders, overrides, hf, ho, rfl⟩, hv⟩
      exact ⟨folders, overrides, hf.imp fun _ _ => (isFolder_iff hm).1, ho, hv⟩
    · rintro ⟨folders, overrides, hf, ho, hv⟩
      exact ⟨_, ⟨folders, overrides, hf.imp fun _ _ => (isFolder_iff hm).2, ho, rfl⟩, hv⟩
  · intro sub hs hmissing
    rw [← filePath_join s sub hm] at hmissing
    exact exists_resolve_eq_error hs (.inr he) hmissing
  · rw [file_inj hstem hm.slash_notMem, stem_eq_self_iff]
  · intro sub mode' hm'
    exact file_inj hstem (slash_notMem_stem hm'.slash_notMem)

/-- A version is no run mode of its own: the file without the last part of its number is read, and
must be there, though there is one of the whole name. The next version has the same file. -/
theorem resolve_runMode_of_version :
    let s : Sources := ⟨"config", ["x"], some "v1.2", "ORACLE", []⟩
    let own : List (Place × FileEntry) :=
      [(["config"], .folder), (["config", "x"], .folder),
        (["config", "x", "default.toml"], .file []),
        (["config", "x", "v1.2.toml"], .file (Text.utf8 "k = 2".toList))]
    let other : Place × FileEntry :=
      (["config", "x", "v1.toml"], .file (Text.utf8 "k = 1".toList))
    (∀ formats, s.resolve [] ⟨other :: own, []⟩ formats =
        .ok (.table none [("k", .scalar (some "config/x/v1.toml") (.int 1))])) ∧
      (∀ formats, ∃ e, s.resolve [] ⟨own, []⟩ formats = .error e) ∧
      s.file "x" (stem "v1.2") ≠ s.file "x" "v1.2" ∧
      s.file "x" (stem "v1.2") = s.file "x" (stem "v1.3") := by
  intro s own other
  let k : Value := .scalar (some "config/x/v1.toml") (.int 1)
  have hm : IsFileName "v1.2" := by constructor <;> decide
  have hm' : IsFileName "v1.3" := by constructor <;> decide
  have hmode : (List.lookup "RUN_MODE" []).or s.runMode = some "v1.2" := rfl
  obtain ⟨-, -, -, hown, hsame⟩ := resolve_runMode hm hmode ⟨own, []⟩ .basic
  have hdefault : FileTree.read? ⟨other :: own, []⟩ (s.file "x" "default") = some [] := by
    decide +kernel
  refine ⟨fun formats => ?_, fun formats => ?_, ?_, ?_⟩
  · obtain ⟨hok, hread, -⟩ := resolve_runMode hm hmode ⟨other :: own, []⟩ formats
    refine (hok _).2 ⟨[[[], [("k", k)], []]], .emptyTable, ?_, by rfl, by decide +kernel⟩
    refine .cons ⟨[], [("k", k)], [], ?_, ?_, ?_, rfl⟩ .nil
    · exact (isFileLayer_of_read? hdefault).2 (by decide +kernel)
    · exact (hread "x" (Text.utf8 "k = 1".toList) _ (by decide +kernel)).2 (by decide +kernel)
    · exact .inr ⟨.inl (by decide +kernel), rfl⟩
  · obtain ⟨-, -, hmissing, -⟩ := resolve_runMode hm hmode ⟨own, []⟩ formats
    exact hmissing "x" (List.mem_cons_self ..) (by decide +kernel)
  · rw [ne_eq, hown]
    decide
  · rw [hsame "x" "v1.3" hm']
    decide

end Sources

end Config

end ScrollExport
