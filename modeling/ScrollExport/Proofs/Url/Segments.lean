import ScrollExport.Proofs.Text.Pieces
import ScrollExport.Proofs.Url.UserInfo

/-!
# Segments of URLs

The segments of a URL that was read have no slash and no question mark (`hasSegments_of_read`), so
they can be told apart in the text of its path (`readSegments_flatMap`).
-/

namespace ScrollExport

namespace Percent

/-- A character that user information must encode is in no encoded text, unless it was there and is
one that is kept. -/
lemma notMem_encode {isEncoded : Char → Bool} {c : Char} {cs : List Char}
    (hu : inUserInfo c = true) (h : isEncoded c = true ∨ c ∉ cs) : c ∉ encode isEncoded cs := by
  intro hm
  obtain ⟨d, hd, hc⟩ := List.mem_flatMap.1 hm
  split_ifs at hc with he
  · rw [inUserInfo_of_mem_encodeChar c hc] at hu
    cases hu
  · obtain rfl := List.mem_singleton.1 hc
    exact h.elim he fun hn => hn hd

end Percent

namespace Url

/-- A segment of a path: it ends neither the segment nor the path. -/
def IsSegment (cs : List Char) : Prop :=
  '/' ∉ cs ∧ '?' ∉ cs

lemma isSegment_nil : IsSegment [] :=
  ⟨List.not_mem_nil, List.not_mem_nil⟩

/-- Nothing stands before the first slash. -/
lemma splitChars_flatMap {segments : List (List Char)} (h : ∀ s ∈ segments, IsSegment s) :
    Text.splitChars (· = '/') (segments.flatMap ('/' :: ·)) = [] :: segments := by
  have hpath : segments.flatMap ('/' :: ·) = ['/'].intercalate ([] :: segments) :=
    (Text.intercalate_cons '/' [] segments).symm
  rw [hpath, Text.splitChars_intercalate (List.cons_ne_nil _ _)]
  exact List.forall_mem_cons.2 ⟨List.not_mem_nil, fun s hs => (h s hs).1⟩

lemma flatMap_inj {segments segments' : List (List Char)} (h : ∀ s ∈ segments, IsSegment s)
    (h' : ∀ s ∈ segments', IsSegment s) :
    segments.flatMap ('/' :: ·) = segments'.flatMap ('/' :: ·) ↔ segments = segments' := by
  refine ⟨fun he => ?_, fun he => by rw [he]⟩
  have hs := congrArg (Text.splitChars (· = '/')) he
  rw [splitChars_flatMap h, splitChars_flatMap h'] at hs
  exact List.tail_eq_of_cons_eq hs

/-- The segments of a path, decoded from its text. -/
def readSegments (path : List Char) : List (List UInt8) :=
  (Text.splitChars (· = '/') path).map Percent.decode

lemma readSegments_flatMap {segments : List (List Char)} (h : ∀ s ∈ segments, IsSegment s) :
    readSegments (segments.flatMap ('/' :: ·)) = [] :: segments.map Percent.decode := by
  rw [readSegments, splitChars_flatMap h]
  rfl

lemma readSegments_pathChars {names : List String} (h : ∀ name ∈ names, IsSegment name.toList) :
    readSegments (pathChars (.segments names)) =
      [] :: names.map fun name => Percent.decode name.toList := by
  have hpath : pathChars (.segments names) = (names.map String.toList).flatMap ('/' :: ·) :=
    (List.flatMap_map ..).symm
  rw [hpath, readSegments_flatMap (List.forall_mem_map.2 h), List.map_map]
  rfl

lemma notMem_flatMap {segments : List (List Char)} (h : ∀ s ∈ segments, IsSegment s) :
    '?' ∉ segments.flatMap ('/' :: ·) := by
  intro hm
  obtain ⟨s, hs, hm⟩ := List.mem_flatMap.1 hm
  exact (h s hs).2 ((List.mem_cons.1 hm).resolve_left (by decide))

/-! ### Segments that are read -/

variable {special : Bool} {cs : List Char} {u : Url}

/-- What is left of segments without dots is segments, and perhaps an empty one. -/
lemma isSegment_of_mem_resolveDots {before segments : List (List Char)}
    (hb : ∀ s ∈ before, IsSegment s) (hs : ∀ s ∈ segments, IsSegment s) :
    ∀ s ∈ resolveDots before segments, IsSegment s := by
  have hreverse : ∀ {s : List Char} {before : List (List Char)}, IsSegment s →
      (∀ t ∈ before, IsSegment t) → ∀ t ∈ (s :: before).reverse, IsSegment t :=
    fun hs hb t ht => List.forall_mem_cons.2 ⟨hs, hb⟩ t (List.mem_reverse.1 ht)
  fun_induction resolveDots before segments with
  | case1 before => simpa using hb
  | case2 before last h =>
    exact hreverse isSegment_nil fun t ht => hb t (List.mem_of_mem_tail ht)
  | case3 before last h hd => exact hreverse isSegment_nil hb
  | case4 before last h hd => exact hreverse (hs last (List.mem_singleton_self last)) hb
  | case5 before s rest h hd ih =>
    exact ih (fun t ht => hb t (List.mem_of_mem_tail ht)) (List.forall_mem_of_forall_mem_cons hs)
  | case6 before s rest h hd hs' ih => exact ih hb (List.forall_mem_of_forall_mem_cons hs)
  | case7 before s rest h hd hs' ih =>
    obtain ⟨hhead, hrest⟩ := List.forall_mem_cons.1 hs
    exact ih (List.forall_mem_cons.2 ⟨hhead, hb⟩) hrest

/-- A path of segments, or one that has none. -/
def HasSegments (path : UrlPath) : Prop :=
  ∃ names, path = .segments names ∧ ∀ name ∈ names, IsSegment name.toList

lemma hasSegments_scanSegments (special : Bool) (cs : List Char) :
    HasSegments (scanSegments special cs) := by
  refine ⟨_, rfl, List.forall_mem_map.2 fun name h => ?_⟩
  rw [String.toList_ofList]
  refine isSegment_of_mem_resolveDots (List.forall_mem_nil _)
    (List.forall_mem_map.2 fun piece hp => ?_) name h
  have hslash : '/' ∉ piece := by
    intro hm
    have hno := Text.isSeparator_of_mem_splitChars piece hp '/' hm
    simp [isSlash] at hno
  exact ⟨Percent.notMem_encode (by decide) (.inr hslash),
    Percent.notMem_encode (by decide) (.inl (by decide))⟩

lemma hasSegments_scanPath (special : Bool) (cs : List Char) :
    HasSegments (scanPath special cs) := by
  have hempty : IsSegment "".toList := isSegment_nil
  unfold scanPath
  split
  · split_ifs
    · exact ⟨[""], rfl, by simpa using hempty⟩
    · exact ⟨[], rfl, List.forall_mem_nil _⟩
  · split_ifs <;> exact hasSegments_scanSegments _ _

lemma hasSegments_of_fileUrl (h : fileUrl cs = .ok u) : HasSegments u.path := by
  simp only [fileUrl] at h
  split at h
  · split_ifs at h
    · obtain rfl := Except.ok.inj h
      exact hasSegments_scanPath _ _
    · obtain ⟨host, -, h⟩ := bind_eq_ok_iff.1 h
      obtain rfl := Except.ok.inj h
      exact hasSegments_scanPath _ _
    · obtain rfl := Except.ok.inj h
      exact hasSegments_scanPath _ _
  · obtain rfl := Except.ok.inj h
    exact hasSegments_scanPath _ _

lemma hasSegments_of_afterSlashes {scheme : String} (h : afterSlashes scheme cs = .ok u) :
    HasSegments u.path := by
  obtain ⟨a, -, h⟩ := bind_eq_ok_iff.1 h
  obtain rfl := Except.ok.inj h
  exact hasSegments_scanPath _ _

/-- The path of a URL with an authority is made of segments. -/
theorem hasSegments_of_read {s : String} (h : read s = .ok u) (ha : u.authority.isSome = true) :
    HasSegments u.path := by
  rw [read, readChars] at h
  split at h
  · cases h
  · split_ifs at h
    · exact hasSegments_of_fileUrl h
    · exact hasSegments_of_afterSlashes h
    · split at h
      · exact hasSegments_of_afterSlashes h
      · obtain rfl := Except.ok.inj h
        cases ha

/-- A folder ends in an empty segment. -/
lemma exists_folder (h : HasSegments u.path) :
    ∃ folder : List String, u.asFolder.path = .segments (folder ++ [""]) ∧
      ∀ name ∈ folder, IsSegment name.toList := by
  obtain ⟨names, hp, hn⟩ := h
  by_cases hlast : names.getLast? = some ""
  · obtain ⟨folder, rfl⟩ := List.getLast?_eq_some_iff.1 hlast
    refine ⟨folder, ?_, fun name hm => hn name (List.mem_append_left _ hm)⟩
    simp [asFolder, hp]
  · refine ⟨names, ?_, hn⟩
    simp [asFolder, hp, hlast]

end Url

end ScrollExport
