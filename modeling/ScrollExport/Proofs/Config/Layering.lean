import ScrollExport.Proofs.Config.Precedence
import ScrollExport.Proofs.Config.Rebuilding
import ScrollExport.Proofs.Results
import ScrollExport.Settings

/-!
# Layering

A configuration that can be resolved is built from the layers of its folders in turn, then that of
the environment, then the overrides. At a free path it has what the last of them has
(`Sources.resolve_layered`).
-/

namespace ScrollExport.Config

open Value KeyPath

variable {formats : Formats} {files : FileTree} {env : Environment}

/-! ### Files -/

/-- There is no file for a path, in any format. A path that got no extension is looked up alone. -/
def IsMissing (files : FileTree) (path : String) : Prop :=
  files.read? path = none ∧
    (path.endsWith ".toml" = true →
      ∀ format ∈ FileFormat.all, ∀ e ∈ format.extensions, files.read? (path ++ e) = none)

instance (files : FileTree) (path : String) : Decidable (IsMissing files path) :=
  inferInstanceAs (Decidable (_ ∧ _))

/-- Whatever comes first, nothing is found exactly if nothing is there. -/
lemma Formats.find?_eq_none_iff (formats : Formats) {path : String} :
    formats.find? files path = none ↔ IsMissing files path := by
  have hfallback : (∀ format ∈ formats.order, ∀ e ∈ format.extensions,
      files.read? (path ++ e) = none) ↔
      ∀ format ∈ FileFormat.all, ∀ e ∈ format.extensions, files.read? (path ++ e) = none :=
    forall_congr' fun format =>
      imp_congr_left (iff_of_true (formats.mem_order format) format.mem_all)
  rw [Formats.find?, Formats.candidates, List.findSome?_eq_none_iff, IsMissing, extension,
    ← hfallback]
  split_ifs with hext
  · simp only [List.forall_mem_cons, List.forall_mem_flatMap, List.forall_mem_map,
      Option.map_eq_none_iff, hext, forall_const]
  · simp [hext]

/-- The layer of a file, which must be there. -/
def IsFileLayer (formats : Formats) (files : FileTree) (path : String) (layer : Entries) : Prop :=
  ∃ file, formats.find? files path = some file ∧ formats.layer file = .ok layer

/-- The layer of a file, or an empty one if the file is not there or is no text. -/
def IsOptionalLayer (formats : Formats) (files : FileTree) (path : String) (layer : Entries) :
    Prop :=
  IsFileLayer formats files path layer ∨
    (IsMissing files path ∨
      ∃ file, formats.find? files path = some file ∧ textOf? file.bytes = none) ∧ layer = []

lemma requiredLayer_eq_ok_iff {path : String} {layer : Entries} :
    requiredLayer formats files path = .ok layer ↔ IsFileLayer formats files path layer := by
  rw [requiredLayer, IsFileLayer]
  cases formats.find? files path <;> simp

/-- A file that is no text has no layer. -/
lemma layer_ne_ok {file : ConfigFile} (h : textOf? file.bytes = none) (layer : Entries) :
    formats.layer file ≠ .ok layer := by
  simp [Formats.layer, layerOf, h]

lemma optionalLayer_eq_ok_iff {path : String} {layer : Entries} :
    optionalLayer formats files path = .ok layer ↔ IsOptionalLayer formats files path layer := by
  rw [optionalLayer, IsOptionalLayer, IsFileLayer, ← formats.find?_eq_none_iff]
  cases formats.find? files path with
  | none => simp [eq_comm]
  | some file =>
    cases ht : textOf? file.bytes with
    | none => simp [ht, layer_ne_ok ht]
    | some text => simp [ht]

/-! ### Folders -/

/-- The layers of a folder: of its default file, of the file of the run mode if there is one, and of
its local file. -/
inductive IsFolder (formats : Formats) (files : FileTree) (folder : String) :
    Option String → List Entries → Prop where
  | plain {default' local' : Entries}
    (hd : IsFileLayer formats files (filePath folder "default") default')
    (hl : IsOptionalLayer formats files (filePath folder "local") local') :
    IsFolder formats files folder none [default', local']
  | mode {name : String} {default' mode local' : Entries}
    (hd : IsFileLayer formats files (filePath folder "default") default')
    (hm : IsFileLayer formats files (filePath folder name) mode)
    (hl : IsOptionalLayer formats files (filePath folder "local") local') :
    IsFolder formats files folder (some name) [default', mode, local']

lemma folderLayers_eq_ok_iff {folder : String} {runMode : Option String} {layers : List Entries} :
    folderLayers formats files folder runMode = .ok layers ↔
      IsFolder formats files folder runMode layers := by
  cases runMode with
  | none =>
    simp only [folderLayers, bind_eq_ok_iff, pure_eq_ok_iff, requiredLayer_eq_ok_iff,
      optionalLayer_eq_ok_iff]
    constructor
    · rintro ⟨default', hd, mode, rfl, local', hl, rfl⟩
      exact .plain hd hl
    · rintro (⟨hd, hl⟩ | _)
      exact ⟨_, hd, [], rfl, _, hl, rfl⟩
  | some name =>
    simp only [folderLayers, bind_eq_ok_iff, pure_eq_ok_iff, map_eq_ok_iff,
      requiredLayer_eq_ok_iff, optionalLayer_eq_ok_iff]
    constructor
    · rintro ⟨default', hd, -, ⟨mode, hm, rfl⟩, local', hl, rfl⟩
      exact .mode hd hm hl
    · rintro (_ | ⟨hd, hm, hl⟩)
      exact ⟨_, hd, _, ⟨_, hm, rfl⟩, _, hl, rfl⟩

/-- A folder without one of its files has no layers. -/
lemma not_isFolder_of_isMissing {folder name : String} {runMode : Option String}
    (hn : name = "default" ∨ runMode = some name) (hm : IsMissing files (filePath folder name))
    (layers : List Entries) : ¬ IsFolder formats files folder runMode layers := by
  have hnot : ∀ layer, ¬ IsFileLayer formats files (filePath folder name) layer := by
    rintro layer ⟨file, hfile, -⟩
    rw [formats.find?_eq_none_iff.2 hm] at hfile
    cases hfile
  intro h
  rcases hn with rfl | rfl
  · cases h with
    | plain hd _ => exact hnot _ hd
    | mode hd _ _ => exact hnot _ hd
  · cases h with
    | mode _ hmode _ => exact hnot _ hmode

/-! ### Sources -/

namespace Sources

/-- The layers of sources in order: those of each folder, the environment, the overrides. The run
mode of the environment goes before the given one. -/
def IsLayering (s : Sources) (env : Environment) (files : FileTree) (formats : Formats)
    (layers : List Entries) : Prop :=
  ∃ folders overrides,
    List.Forall₂
      (fun sub =>
        IsFolder formats files (Path.join s.folder sub) ((env.lookup "RUN_MODE").or s.runMode))
      s.subfolders folders ∧
    ofOverrides s.overrides = .ok overrides ∧
    layers = folders.flatten ++ [environmentLayer env s.namePrefix, overrides.entries]

lemma layers_eq_ok_iff {s : Sources} {layers : List Entries} :
    s.layers env files formats = .ok layers ↔ s.IsLayering env files formats layers := by
  simp only [Sources.layers, IsLayering, effectiveRunMode, runModeVariable, bind_eq_ok_iff,
    mapError_eq_ok_iff, mapM_eq_ok_iff, pure_eq_ok_iff, folderLayers_eq_ok_iff]
  constructor
  · rintro ⟨overrides, ho, folders, hf, rfl⟩
    exact ⟨folders, overrides, hf, ho, rfl⟩
  · rintro ⟨folders, overrides, hf, ho, rfl⟩
    exact ⟨overrides, ho, folders, hf, rfl⟩

lemma resolve_eq_ok_iff {s : Sources} {v : Value} :
    s.resolve env files formats = .ok v ↔
      ∃ layers, s.IsLayering env files formats layers ∧ v = ofLayers layers := by
  simp only [resolve, map_eq_ok_iff, layers_eq_ok_iff, eq_comm (a := v)]

/-- Without one of its files no folder has layers, and so nothing can be resolved. -/
lemma exists_resolve_eq_error {s : Sources} {sub name : String} (hs : sub ∈ s.subfolders)
    (hn : name = "default" ∨ (env.lookup "RUN_MODE").or s.runMode = some name)
    (hm : IsMissing files (filePath (Path.join s.folder sub) name)) :
    ∃ e, s.resolve env files formats = .error e := by
  cases hr : s.resolve env files formats with
  | error e => exact ⟨e, rfl⟩
  | ok v =>
    obtain ⟨layers, ⟨folders, overrides, hf, -⟩, -⟩ := resolve_eq_ok_iff.1 hr
    obtain ⟨i, hi, rfl⟩ := List.getElem_of_mem hs
    have hlayers := hf.get hi (hf.length_eq ▸ hi)
    exact absurd hlayers (not_isFolder_of_isMissing hn hm _)

end Sources

/-- Settings are decoded from the configuration as it was resolved. -/
lemma configuration_eq_resolve (r : Settings.Request) :
    r.configuration env files formats = r.sources.resolve env files formats := by
  rw [Settings.Request.configuration]
  cases hr : r.sources.resolve env files formats with
  | error e => rfl
  | ok v =>
    obtain ⟨layers, -, rfl⟩ := Sources.resolve_eq_ok_iff.1 hr
    rw [Except.map, ofLayers_entries]

lemma isTable_of_configuration {r : Settings.Request} {c : Value}
    (h : r.configuration env files formats = .ok c) : c.isTable = true := by
  rw [configuration_eq_resolve] at h
  obtain ⟨layers, -, rfl⟩ := Sources.resolve_eq_ok_iff.1 h
  exact (IsBuilt.ofLayers layers).isTable

/-- What is resolved is built from all layers in order. Of the layers that have a value at a free
path the last one counts, a layer leaves the keys that it does not mention, and nothing is resolved
without a file that must be there. -/
theorem Sources.resolve_layered (s : Sources) (env : Environment) (files : FileTree)
    (formats : Formats) :
    (∀ v, s.resolve env files formats = .ok v ↔
      ∃ layers, s.IsLayering env files formats layers ∧ v = ofLayers layers) ∧
    (∀ r : Settings.Request, r.sources = s →
      r.configuration env files formats = s.resolve env files formats) ∧
    (∀ layers (p : KeyPath), IsFree layers p.steps →
      (ofLayers layers).at? p.steps = (layers.filterMap (value? · p.steps)).getLast? ∧
        ((ofLayers layers).at? p.steps = none ↔ ∀ layer ∈ layers, value? layer p.steps = none) ∧
        ∀ layer ∈ layers, value? layer p.steps = (ofLayers [layer]).at? p.steps) ∧
    (∀ layers layer (p : KeyPath), p.steps.all PathStep.isKey = true → ¬ Mentions layer p.steps →
      (ofLayers (layers ++ [layer])).at? p.steps = (ofLayers layers).at? p.steps) ∧
    ∀ sub ∈ s.subfolders, ∀ name,
      name = "default" ∨ (env.lookup "RUN_MODE").or s.runMode = some name →
        IsMissing files (filePath (Path.join s.folder sub) name) →
          ∃ e, s.resolve env files formats = .error e := by
  refine ⟨fun v => resolve_eq_ok_iff, ?_, ?_, ?_, ?_⟩
  · rintro r rfl
    exact configuration_eq_resolve r
  · intro layers p hp
    have hne : p.steps ≠ [] := List.cons_ne_nil _ _
    have hat := at?_ofLayers hne hp
    refine ⟨hat, ?_, fun layer hlayer => value?_eq_at? hne hp hlayer⟩
    rw [hat, List.getLast?_eq_none_iff, List.filterMap_eq_nil_iff]
  · intro layers layer p hk hm
    exact at?_ofLayers_append hk hm layers
  · intro sub hs name hn hm
    exact exists_resolve_eq_error hs hn hm

/-- The run mode of the environment goes before the given one, and an override before both files;
what only the default file mentions stays. -/
theorem Sources.resolve_layered_of_mode :
    let r : Settings.Request := ⟨"config", some "dev", ["a.b=3"]⟩
    let env : Environment := [("RUN_MODE", "prod")]
    let folder (name : String) (text : String) : List (Place × FileEntry) :=
      [(["config", name], .folder),
        (["config", name, "default.toml"], .file (Text.utf8 text.toList)),
        (["config", name, "prod.toml"], .file (Text.utf8 "a.b = 2".toList))]
    let files : FileTree :=
      ⟨(["config"], .folder) :: folder "esexport" "a = { b = 1, c = 1 }" ++
        folder "elasticsearch" "", []⟩
    let b : KeyPath := ⟨"a", [.key "b"]⟩
    let c : KeyPath := ⟨"a", [.key "c"]⟩
    ∃ v layers last, r.configuration env files .basic = .ok v ∧
      r.sources.IsLayering env files .basic (layers ++ [last]) ∧ v = ofLayers (layers ++ [last]) ∧
      IsFree (layers ++ [last]) b.steps ∧ v.at? b.steps = some (.scalar none (.int 3)) ∧
      ¬ Mentions last c.steps ∧
      v.at? c.steps = some (.scalar (some "config/esexport/default.toml") (.int 1)) ∧
      (∃ e, r.sources.resolve [] files .basic = .error e) := by
  intro r env folder files b c
  let value (file : String) (i : Int) : Value := .scalar (some file) (.int i)
  let mode (file : String) : Entries := [("a", .table (some file) [("b", value file 2)])]
  let default' := "config/esexport/default.toml"
  let layers : List Entries :=
    [[("a", .table (some default') [("b", value default' 1), ("c", value default' 1)])],
      mode "config/esexport/prod.toml", [], [], mode "config/elasticsearch/prod.toml", [], []]
  let last : Entries := [("a", .table none [("b", .scalar none (.int 3))])]
  have hlayers : r.sources.IsLayering env files .basic (layers ++ [last]) :=
    layers_eq_ok_iff.1 (by decide +kernel)
  -- every leaf is a value at one of the two keys, and the one of the overrides at the first
  have hmem : ∀ layer ∈ layers ++ [last], ∀ l ∈ leavesOf layer,
      l.2.isTable = false ∧ (l.1 = b.steps ∨ l.1 = c.steps) := by
    decide +kernel
  have hlast : ∀ l ∈ leavesOf last, l.2.isTable = false ∧ l.1 = b.steps := by decide +kernel
  have hitem : ∀ layer ∈ layers ++ [last], ∀ q, ¬ HasItem layer q := by
    rintro layer hlayer q ⟨l, hl, i, rest, h⟩
    have hi : .index i ∈ l.1 := by simp [h]
    rcases (hmem layer hlayer l hl).2 with he | he <;> simp [he, b, c, steps] at hi
  have hb : IsFree (layers ++ [last]) b.steps := by
    constructor
    · rintro layer hlayer ⟨l, hl, ⟨-, ht⟩ | ⟨name, rest, h⟩⟩
      · rw [(hmem layer hlayer l hl).1] at ht
        cases ht
      · rcases (hmem layer hlayer l hl).2 with he | he <;> simp [he, b, c, steps] at h
    · rintro layer hlayer q hq hne (hi | ⟨l, hl, rfl, -⟩)
      · exact hitem layer hlayer q hi
      · rcases (hmem layer hlayer l hl).2 with he | he
        · exact hne he
        · rw [he] at hq
          exact absurd hq (by decide)
    · exact fun layer hlayer => hitem layer hlayer _
  have hc : ¬ Mentions last c.steps := by
    rintro (⟨l, hl, ⟨h, -⟩ | ⟨name, rest, h⟩⟩ | ⟨q, hq, hi | ⟨l, hl, rfl, -⟩⟩)
    · simp [(hlast l hl).2, b, c, steps] at h
    · simp [(hlast l hl).2, b, c, steps] at h
    · exact hitem last (by simp) q hi
    · rw [(hlast l hl).2] at hq
      exact absurd hq (by decide)
  have hm : IsMissing files (filePath (Path.join r.folder "esexport") "dev") := by decide +kernel
  obtain ⟨hok, hconf, hfree, hkeep, -⟩ := resolve_layered r.sources env files .basic
  obtain ⟨-, -, -, -, hmissing⟩ := resolve_layered r.sources [] files .basic
  refine ⟨_, layers, last, (hconf r rfl).trans ((hok _).2 ⟨_, hlayers, rfl⟩), hlayers, rfl, hb, ?_,
    hc, ?_, hmissing "esexport" (List.mem_cons_self ..) "dev" (.inr rfl) hm⟩
  · rw [(hfree _ b hb).1]
    decide +kernel
  · rw [hkeep layers last c rfl hc]
    decide +kernel

/-- An item that the environment assigns goes into the list of a file: the list is that of no
layer. -/
theorem Sources.resolve_of_item :
    let s : Sources := ⟨"config", ["x"], none, "ORACLE", []⟩
    let env : Environment := [("ORACLE_L[0]", "z")]
    let files : FileTree :=
      ⟨[(["config"], .folder), (["config", "x"], .folder),
        (["config", "x", "default.toml"], .file (Text.utf8 "l = [1, 2]\n".toList))], []⟩
    let p : KeyPath := ⟨"l", []⟩
    ∃ layers, s.IsLayering env files .basic layers ∧
      (∀ layer ∈ layers, ¬ HasTable layer p.steps) ∧
      (∀ layer ∈ layers, ∀ q, q <+: p.steps → q ≠ p.steps → ¬ HasOther layer q) ∧
      s.resolve env files .basic = .ok (ofLayers layers) ∧
      (ofLayers layers).at? p.steps ≠
        (layers.filterMap fun layer => (ofLayers [layer]).at? p.steps).getLast? ∧
      (ofLayers layers).at? p.steps ≠ (layers.filterMap (value? · p.steps)).getLast? := by
  intro s env files p
  let file := "config/x/default.toml"
  let layers : List Entries :=
    [[("l", .arr (some file) [.scalar (some file) (.int 1), .scalar (some file) (.int 2)])], [],
      [("l[0]", .scalar (some environmentOrigin) (.str "z"))], []]
  have hlayers : s.IsLayering env files .basic layers := layers_eq_ok_iff.1 (by decide +kernel)
  -- the only leaves are the list and its item
  have hmem : ∀ layer ∈ layers, ∀ l ∈ leavesOf layer,
      l.2.isTable = false ∧ (l.1 = [.key "l"] ∨ l.1 = [.key "l", .index 0]) := by
    decide +kernel
  refine ⟨layers, hlayers, ?_, ?_, resolve_eq_ok_iff.2 ⟨layers, hlayers, rfl⟩, by decide +kernel,
    by decide +kernel⟩
  · rintro layer hlayer ⟨l, hl, ⟨-, ht⟩ | ⟨name, rest, h⟩⟩
    · rw [(hmem layer hlayer l hl).1] at ht
      cases ht
    · rcases (hmem layer hlayer l hl).2 with he | he <;> simp [he, p, steps] at h
  · intro layer hlayer q hq hne ho
    obtain rfl : q = [] := by
      rcases List.prefix_cons_iff.1 hq with hq | ⟨t, rfl, ht⟩
      · exact hq
      · obtain rfl := List.prefix_nil.1 ht
        exact absurd rfl hne
    rcases ho with ⟨l, hl, i, rest, h⟩ | ⟨l, hl, h, -⟩ <;>
      rcases (hmem layer hlayer l hl).2 with he | he <;> simp [he] at h

end ScrollExport.Config
