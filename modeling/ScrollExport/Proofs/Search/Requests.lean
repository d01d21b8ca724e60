import ScrollExport.Proofs.Scroll.Calls
import ScrollExport.Proofs.Url.Percent
import ScrollExport.Search.Session

/-!
# Requests of a session

The requests that stand for the calls of a drain, and what they look like to a server at the root
of its host. A search goes to the name of its index, but a name that is a dot or two is taken for a
folder and vanishes from the path (`sent_eq_image_iff`).
-/

namespace ScrollExport.Search.Access

open Script (Call)

variable {a : Access} {q : Query}

/-- The request that a session makes for a call. -/
def sent (a : Access) (q : Query) : Call → Request
  | .openScroll index _ => a.openingRequest q index
  | .nextPage cursor keepAlive => a.continuationRequest cursor keepAlive
  | .release cursor => a.releaseRequest cursor

/-- The search of some path. -/
def searchAt (a : Access) (q : Query) (path : List Char) : Request :=
  ⟨"POST", String.ofList (path ++ "?scroll=".toList ++ q.keepAlive.toList), a.authorization,
    (openingBody q).compact⟩

/-- The request that a call stands for: a search of the index by its encoded name, or a request
about scrolls. -/
def image (a : Access) (q : Query) : Call → Request
  | .openScroll index _ => a.searchAt q ('/' :: indexSegment index ++ "/_search".toList)
  | .nextPage cursor keepAlive =>
    ⟨"POST", "/_search/scroll", a.authorization,
      (Json.obj [("scroll", .str keepAlive), ("scroll_id", .str cursor)]).compact⟩
  | .release cursor =>
    ⟨"DELETE", "/_search/scroll", a.authorization,
      (Json.obj [("scroll_id", .arr [.str cursor])]).compact⟩

/-- The names that leave no segment in a path. -/
def vanishing : List String :=
  ["", ".", ".."]

/-! ### Paths -/

lemma isSingleDot_indexSegment {index : String} :
    Url.isSingleDot (indexSegment index) = true ↔ index = "." := by
  rw [indexSegment, Percent.isSingleDot_encode_iff rfl rfl]
  exact ⟨fun h => String.toList_inj.1 h, fun h => h ▸ rfl⟩

lemma isDoubleDot_indexSegment {index : String} :
    Url.isDoubleDot (indexSegment index) = true ↔ index = ".." := by
  rw [indexSegment, Percent.isDoubleDot_encode_iff rfl rfl]
  exact ⟨fun h => String.toList_inj.1 h, fun h => h ▸ rfl⟩

/-- Where the name of an entry leads from a folder: two dots lead out of it, a dot nowhere. -/
def enter {α : Type} (folder : List α) (name : String) (entry : α) : List α :=
  if name = ".." then folder.dropLast else if name = "." then folder else folder ++ [entry]

lemma resolveDots_pair {before : List (List Char)} {segment last : List Char}
    (hs : Url.isSingleDot last = false) (hd : Url.isDoubleDot last = false) :
    Url.resolveDots before [segment, last] =
      (last :: if Url.isDoubleDot segment then before.tail
        else if Url.isSingleDot segment then before else segment :: before).reverse := by
  cases h₂ : Url.isDoubleDot segment <;> cases h₁ : Url.isSingleDot segment <;>
    simp [Url.resolveDots, h₁, h₂, hs, hd]

lemma resolveDots_searchPath (folder : List (List Char)) {index : String} (hi : index ≠ "") :
    Url.resolveDots folder.reverse (searchPath index) =
      enter folder index (indexSegment index) ++ ["_search".toList] := by
  rw [searchPath, if_neg hi, List.singleton_append, resolveDots_pair rfl rfl, enter]
  simp only [isDoubleDot_indexSegment, isSingleDot_indexSegment, List.reverse_cons]
  split_ifs with hd hs
  · rw [List.tail_reverse, List.reverse_reverse]
  · rw [List.reverse_reverse]
  · rw [List.reverse_cons, List.reverse_reverse]

lemma resolveDots_searchPath_empty (folder : List (List Char)) :
    Url.resolveDots folder.reverse (searchPath "") = folder ++ ["_search".toList] := by
  have hs : Url.isSingleDot "_search".toList = false := rfl
  have hd : Url.isDoubleDot "_search".toList = false := rfl
  rw [searchPath, if_pos rfl, List.nil_append, Url.resolveDots, hs, hd, if_neg (by decide),
    if_neg (by decide), List.reverse_cons, List.reverse_reverse]

/-! ### Targets -/

lemma base_of_root (hr : a.url.path = .segments [""]) : a.base = a.url := by
  simp [base, Url.asFolder, hr]

/-- The target of a request is its own path, below the folder of the endpoint, and its query. -/
lemma request_eq {folder : List String} (hp : a.base.path = .segments (folder ++ [""]))
    (method : String) (path : List (List Char)) (query : Option String) (body : Json) :
    a.request method path query body =
      ⟨method, String.ofList
        ((Url.resolveDots (folder.map String.toList).reverse path).flatMap ('/' :: ·) ++
          Url.partChars '?' query), a.authorization, body.compact⟩ := by
  simp [request, Url.join, Url.segmentNames, hp, Url.targetChars, Url.pathChars, List.flatMap_map]

lemma request_of_root (hr : a.url.path = .segments [""]) (method : String)
    (path : List (List Char)) (query : Option String) (body : Json) :
    a.request method path query body =
      ⟨method, String.ofList ((Url.resolveDots [] path).flatMap ('/' :: ·) ++
        Url.partChars '?' query), a.authorization, body.compact⟩ := by
  have hp : a.base.path = .segments ([] ++ [""]) := by rw [base_of_root hr, hr, List.nil_append]
  exact request_eq hp method path query body

/-- The query of the endpoint is kept by the first request alone. -/
lemma infoRequest_eq (a : Access) :
    a.infoRequest =
      ⟨"GET", String.ofList (Url.pathChars a.base.path ++
        Url.partChars '?' (a.base.query.filter (· ≠ ""))), a.authorization, ""⟩ := by
  rw [infoRequest]
  cases hq : a.base.query with
  | none => simp [Url.targetChars, hq]
  | some query => by_cases he : query = "" <;> simp [Url.targetChars, hq, he, Option.filter]

lemma infoRequest_of_root (hr : a.url.path = .segments [""]) :
    a.infoRequest =
      ⟨"GET", String.ofList ('/' :: Url.partChars '?' (a.url.query.filter (· ≠ ""))),
        a.authorization, ""⟩ := by
  rw [infoRequest_eq, base_of_root hr, hr]
  rfl

/-- The search of an index goes where the name of the index leads from the endpoint's folder. -/
lemma openingRequest_eq {folder : List String} (hp : a.base.path = .segments (folder ++ [""]))
    (q : Query) {index : String} (hi : index ≠ "") :
    a.openingRequest q index = a.searchAt q
      ((enter (folder.map String.toList) index (indexSegment index) ++
        ["_search".toList]).flatMap ('/' :: ·)) := by
  rw [openingRequest, request_eq hp, resolveDots_searchPath _ hi]
  simp [searchAt, Url.partChars]

/-- Without a name, all indices are searched. -/
lemma openingRequest_empty {folder : List String}
    (hp : a.base.path = .segments (folder ++ [""])) (q : Query) :
    a.openingRequest q "" = a.searchAt q
      ((folder.map String.toList ++ ["_search".toList]).flatMap ('/' :: ·)) := by
  rw [openingRequest, request_eq hp, resolveDots_searchPath_empty]
  simp [searchAt, Url.partChars]

theorem sent_openScroll (hr : a.url.path = .segments [""]) (index : String) (pageSize : Nat) :
    a.sent q (.openScroll index pageSize) =
      if index ∈ vanishing then a.searchAt q "/_search".toList
      else a.image q (.openScroll index pageSize) := by
  have hp : a.base.path = .segments ([] ++ [""]) := by rw [base_of_root hr, hr, List.nil_append]
  rw [sent, image]
  by_cases he : index = ""
  · subst he
    rw [openingRequest_empty hp, if_pos (by decide)]
    rfl
  · rw [openingRequest_eq hp q he, List.map_nil, enter]
    by_cases hd : index = ".."
    · simp [hd, vanishing]
    · by_cases hs : index = "."
      · simp [hs, vanishing]
      · simp [hd, hs, he, vanishing]

lemma target_searchAt_injective : Function.Injective fun path => (a.searchAt q path).target := by
  intro path path' h
  simpa [searchAt, String.ofList_inj] using h

lemma searchAt_injective : Function.Injective (a.searchAt q) := by
  intro path path' h
  exact target_searchAt_injective (congrArg Request.target h)

lemma searchAt_ne_image {call : Call} {index : String} (ho : call.opened? = some index) :
    a.searchAt q "/_search".toList ≠ a.image q call := by
  cases call with
  | openScroll index' pageSize =>
    intro he
    have hl := congrArg List.length (searchAt_injective he)
    simp at hl
  | nextPage cursor keepAlive => simp [Call.opened?] at ho
  | release cursor => simp [Call.opened?] at ho

/-- Every call is sent as the request that it stands for, but for the opening of an index that is
named by dots: that searches all indices. -/
theorem sent_eq_ite (hr : a.url.path = .segments [""]) {call : Call}
    (hne : call.opened? ≠ some "") :
    a.sent q call =
      if call.opened? = some "." ∨ call.opened? = some ".." then a.searchAt q "/_search".toList
      else a.image q call := by
  cases call with
  | openScroll index pageSize =>
    rw [sent_openScroll hr]
    refine if_congr ?_ rfl rfl
    simp only [Call.opened?, ne_eq, Option.some.injEq] at hne
    simp [vanishing, Call.opened?, hne]
  | nextPage cursor keepAlive =>
    rw [sent, continuationRequest, request_of_root hr]
    rfl
  | release cursor =>
    rw [sent, releaseRequest, request_of_root hr]
    rfl

theorem sent_eq_image_iff (hr : a.url.path = .segments [""]) {call : Call}
    (hne : call.opened? ≠ some "") :
    a.sent q call = a.image q call ↔ call.opened? ≠ some "." ∧ call.opened? ≠ some ".." := by
  rw [sent_eq_ite hr hne]
  split_ifs with h
  · have hs : a.searchAt q "/_search".toList ≠ a.image q call := by
      rcases h with h | h <;> exact searchAt_ne_image h
    exact iff_of_false hs fun hn => h.elim hn.1 hn.2
  · exact iff_of_true rfl (not_or.1 h)

end ScrollExport.Search.Access
