import ScrollExport.Proofs.Query.Acceptance
import ScrollExport.Proofs.Search.Admission
import ScrollExport.Proofs.Url.Segments

/-!
# Targets of searches

The target of a search tells which index is searched: below the endpoint's folder, the segment that
decodes to its name. The names that are a dot or two have no segment of their own and are the only
ones for which this fails (`Endpoint.search_target`).
-/

namespace ScrollExport

open Text

namespace Search

namespace Access

/-! ### Names in folders -/

/-- The names that lead through folders. -/
def dots : List String :=
  [".", ".."]

section Enter

variable {α : Type} {folder : List α} {name name' : String} {entry entry' : α}

lemma enter_of_notMem (h : name ∉ dots) : enter folder name entry = folder ++ [entry] := by
  simp only [dots, List.mem_cons, List.not_mem_nil, or_false, not_or] at h
  rw [enter, if_neg h.2, if_neg h.1]

lemma map_enter {β : Type} (f : α → β) (folder : List α) (name : String) (entry : α) :
    (enter folder name entry).map f = enter (folder.map f) name (f entry) := by
  unfold enter
  split_ifs <;> simp

lemma mem_of_mem_enter {x : α} (h : x ∈ enter folder name entry) : x ∈ folder ∨ x = entry := by
  unfold enter at h
  split_ifs at h
  · exact .inl (List.dropLast_subset _ h)
  · exact .inl h
  · simpa using h

lemma dropLast_eq_self_iff : folder.dropLast = folder ↔ folder = [] := by
  refine ⟨fun h => ?_, fun h => by rw [h]; rfl⟩
  have hl := congrArg List.length h
  rw [List.length_dropLast] at hl
  exact List.length_eq_zero_iff.1 (by omega)

/-- A name leads nowhere only if it is a dot, or two dots where there is nothing to leave. -/
lemma enter_eq_self_iff : enter folder name entry = folder ↔
    name = "." ∨ name = ".." ∧ folder = [] := by
  unfold enter
  split_ifs with hd hs
  · simp [hd, dropLast_eq_self_iff]
  · simp [hs]
  · simp [hd, hs]

lemma length_enter_le (h : name ∈ dots) : (enter folder name entry).length ≤ folder.length := by
  rcases List.mem_pair.1 h with rfl | rfl <;> simp [enter]

lemma enter_ne_append (h : name ∈ dots) : enter folder name entry ≠ folder ++ [entry'] := by
  intro he
  have hl : (enter folder name entry).length ≤ folder.length := length_enter_le h
  rw [he, List.length_append, List.length_singleton] at hl
  omega

/-- Two names lead to one place only if they are equal, or dots that both lead nowhere. -/
lemma enter_eq_enter_iff {f : String → α} (hf : Function.Injective f) :
    enter folder name (f name) = enter folder name' (f name') ↔
      name = name' ∨ folder = [] ∧ name ∈ dots ∧ name' ∈ dots := by
  by_cases h : name ∈ dots <;> by_cases h' : name' ∈ dots
  · rcases List.mem_pair.1 h with rfl | rfl <;> rcases List.mem_pair.1 h' with rfl | rfl <;>
      simp [enter, dots, dropLast_eq_self_iff, @eq_comm _ folder folder.dropLast]
  · rw [enter_of_notMem h']
    refine iff_of_false (enter_ne_append h) ?_
    rintro (rfl | ⟨-, -, hn⟩)
    · exact h' h
    · exact h' hn
  · rw [enter_of_notMem h, eq_comm]
    refine iff_of_false (enter_ne_append h') ?_
    rintro (rfl | ⟨-, hn, -⟩)
    · exact h h'
    · exact h hn
  · rw [enter_of_notMem h, enter_of_notMem h', List.append_cancel_left_eq, List.cons.injEq,
      hf.eq_iff]
    simp [h]

end Enter

/-! ### Names in targets -/

lemma indexSegment_injective : Function.Injective indexSegment := by
  intro index index' h
  exact String.toList_injective (Percent.encode_injective rfl h)

lemma isSegment_indexSegment (index : String) : Url.IsSegment (indexSegment index) :=
  ⟨Percent.notMem_encode (by decide) (.inl (by decide)),
    Percent.notMem_encode (by decide) (.inl (by decide))⟩

lemma isSegment_search : Url.IsSegment "_search".toList :=
  ⟨by decide, by decide⟩

variable {a : Access} {query : Query}

/-- The path of a search ends at its question mark. -/
lemma splitFirst_target_searchAt {path : List Char} (h : '?' ∉ path) :
    splitFirst '?' (a.searchAt query path).target.toList =
      some (path, "scroll=".toList ++ query.keepAlive.toList) := by
  have ht : (a.searchAt query path).target.toList =
      path ++ '?' :: ("scroll=".toList ++ query.keepAlive.toList) := by
    simp [searchAt]
  rw [ht, splitFirst_append h]

section Folder

variable {folder : List String} {index index' : String}
  (hp : a.base.path = .segments (folder ++ [""]))
  (hf : ∀ name ∈ folder, Url.IsSegment name.toList)

include hf in
lemma isSegment_of_mem_search (index : String) :
    ∀ s ∈ enter (folder.map String.toList) index (indexSegment index) ++ ["_search".toList],
      Url.IsSegment s := by
  have hfolder : ∀ s ∈ folder.map String.toList, Url.IsSegment s := List.forall_mem_map.2 hf
  refine List.forall_mem_append.2 ⟨fun s hs => ?_, List.forall_mem_singleton.2 isSegment_search⟩
  rcases mem_of_mem_enter hs with hs | rfl
  · exact hfolder s hs
  · exact isSegment_indexSegment index

include hp hf

lemma exists_path_of_search (hi : index ≠ "") :
    ∃ path, splitFirst '?' (a.openingRequest query index).target.toList =
        some (path, "scroll=".toList ++ query.keepAlive.toList) ∧
      Url.readSegments path =
        [] :: (enter (folder.map fun name => Percent.decode name.toList) index
          (utf8 index.toList) ++ [utf8 "_search".toList]) := by
  have hs := isSegment_of_mem_search hf index
  rw [openingRequest_eq hp query hi]
  refine ⟨_, splitFirst_target_searchAt (Url.notMem_flatMap hs), ?_⟩
  rw [Url.readSegments_flatMap hs, List.map_append, map_enter, List.map_map, indexSegment,
    Percent.decode_encode rfl]
  rfl

lemma target_eq_target_iff (hi : index ≠ "") (hi' : index' ≠ "") :
    (a.openingRequest query index).target = (a.openingRequest query index').target ↔
      index = index' ∨ folder = [] ∧ index ∈ dots ∧ index' ∈ dots := by
  rw [openingRequest_eq hp query hi, openingRequest_eq hp query hi',
    target_searchAt_injective.eq_iff,
    Url.flatMap_inj (isSegment_of_mem_search hf index) (isSegment_of_mem_search hf index'),
    List.append_cancel_right_eq, enter_eq_enter_iff indexSegment_injective,
    List.map_eq_nil_iff]

lemma target_eq_target_empty_iff (hi : index ≠ "") :
    (a.openingRequest query index).target = (a.openingRequest query "").target ↔
      index = "." ∨ index = ".." ∧ folder = [] := by
  have hall : ∀ s ∈ folder.map String.toList ++ ["_search".toList], Url.IsSegment s :=
    List.forall_mem_append.2
      ⟨List.forall_mem_map.2 hf, List.forall_mem_singleton.2 isSegment_search⟩
  rw [openingRequest_eq hp query hi, openingRequest_empty hp, target_searchAt_injective.eq_iff,
    Url.flatMap_inj (isSegment_of_mem_search hf index) hall, List.append_cancel_right_eq,
    enter_eq_self_iff, List.map_eq_nil_iff]

end Folder

end Access

open Access

/-- The search of an index is sent to the segments of the endpoint's path, that of the name of the
index, and `_search`, with the time that the scroll is kept. But if the name is a dot or two it is
taken for a way through the folders: then the search of all indices is sent, or one outside of the
endpoint's path. Apart from that no two names have the same target. -/
theorem Endpoint.search_target {e : Endpoint} {text keepAlive : String} {indices : List String}
    {pageSize : Nat} {range : TimeRange} {query : Query}
    (hu : Url.read text = .ok e.url) (hh : e.url.authority.isSome = true)
    (hq : Query.make indices pageSize keepAlive range = .ok query) :
    ∃ a folder, e.access = .ok a ∧
      Url.readSegments (Url.pathChars e.url.asFolder.path) = [] :: (folder ++ [[]]) ∧
      ∀ index ∈ indices,
        let target := (a.openingRequest query index).target
        (∀ server, (a.openScroll query index server).2.requests =
          server.requests ++ [a.openingRequest query index]) ∧
        (∃ path, splitFirst '?' target.toList =
            some (path, "scroll=".toList ++ keepAlive.toList) ∧
          Url.readSegments path =
            [] :: (enter folder index (utf8 index.toList) ++ [utf8 "_search".toList])) ∧
        (target = (a.openingRequest query "").target ↔
          index = "." ∨ index = ".." ∧ folder = []) ∧
        ∀ index' ∈ indices, target = (a.openingRequest query index').target ↔
          index = index' ∨ folder = [] ∧ index ∈ dots ∧ index' ∈ dots := by
  obtain ⟨a, ha, hurl⟩ := e.exists_access_of_read hu
  obtain ⟨folder, hfolder, hf⟩ := Url.exists_folder (Url.hasSegments_of_read hu hh)
  obtain ⟨rfl, rfl⟩ := Query.parts_of_make hq
  have hp : a.base.path = .segments (folder ++ [""]) := (path_base hurl).trans hfolder
  have hne : ∀ index ∈ query.indices, index ≠ "" := by
    rintro index hi rfl
    exact absurd (query.indices_named "" hi) (by decide)
  have hnil : (folder.map fun name => Percent.decode name.toList) = [] ↔ folder = [] :=
    List.map_eq_nil_iff
  refine ⟨a, folder.map fun name => Percent.decode name.toList, ha, ?_, fun index hi => ?_⟩
  · have hall : ∀ name ∈ folder ++ [""], Url.IsSegment name.toList :=
      List.forall_mem_append.2 ⟨hf, List.forall_mem_singleton.2 Url.isSegment_nil⟩
    rw [hfolder, Url.readSegments_pathChars hall, List.map_append]
    rfl
  · rw [hnil]
    exact ⟨fun server => congrArg Server.requests (eq_after_of_openScroll rfl),
      exists_path_of_search hp hf (hne index hi), target_eq_target_empty_iff hp hf (hne index hi),
      fun index' hi' => target_eq_target_iff hp hf (hne index hi) (hne index' hi')⟩

/-- Three names below a folder: the first one is searched, a dot stands for all indices, and two
dots lead out of the folder. -/
theorem Endpoint.search_target_of_dots :
    let e : Endpoint :=
      { url := ⟨"http", some ⟨"", none, .domain "localhost", none⟩, .segments ["x"], none, none⟩
        timeout := 10000
        username := none
        password := none }
    Url.read "http://localhost/x" = .ok e.url ∧
      ∃ query a, Query.make ["a/b", ".", ".."] 10 "1m" ⟨"t", "date", none, none⟩ = .ok query ∧
        e.access = .ok a ∧
        let target (index : String) := (a.openingRequest query index).target
        target "." = target "" ∧ target ".." ≠ target "" ∧ target "a/b" ≠ target ".." ∧
          ∃ path, splitFirst '?' (target "a/b").toList = some (path, "scroll=1m".toList) ∧
            Url.readSegments path =
              [[], utf8 "x".toList, utf8 "a/b".toList, utf8 "_search".toList] := by
  intro e
  have hu : Url.read "http://localhost/x" = .ok e.url := by rfl
  have hq : Query.make ["a/b", ".", ".."] 10 "1m" ⟨"t", "date", none, none⟩ =
      .ok ⟨["a/b", ".", ".."], 10, "1m", ⟨"t", "date", none, none⟩, by decide, by decide,
        by decide⟩ := by rfl
  obtain ⟨a, folder, ha, hfolder, hsearch⟩ := Endpoint.search_target hu rfl hq
  obtain rfl : folder = [utf8 "x".toList] := by
    have hx : Url.readSegments (Url.pathChars e.url.asFolder.path) =
        [] :: ([utf8 "x".toList] ++ [[]]) := by rfl
    exact List.append_cancel_right (List.tail_eq_of_cons_eq (hfolder.symm.trans hx))
  obtain ⟨-, hpath, -, hab⟩ := hsearch "a/b" (by decide)
  obtain ⟨-, -, hdot, -⟩ := hsearch "." (by decide)
  obtain ⟨-, -, hdots, -⟩ := hsearch ".." (by decide)
  refine ⟨hu, _, a, hq, ha, hdot.2 (.inl rfl), ?_, ?_, hpath⟩
  · exact fun h => absurd (hdots.1 h) (by decide)
  · exact fun h => absurd ((hab ".." (by decide)).1 h) (by decide)

end Search

end ScrollExport
