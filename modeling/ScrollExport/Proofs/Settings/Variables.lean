import ScrollExport.Proofs.Settings.IndexNames
import ScrollExport.Proofs.Settings.TextSetting

/-!
# Variables of settings

Each documented key has a variable, named like the key. A variable whose name is read back as its
key makes the setting what its text says, if the text is valid for it. But an underscore of the key
is read as a dot too, so the variable of such a key leads elsewhere and changes nothing
(`Key.resolve_variableName`).
-/

namespace ScrollExport

namespace Config.Value

variable {α : Type} {v : Value} {name : String} {p : PartName} {decode : Value → Decoded α}

/-- A part that is decoded, if it is a table. -/
lemma exists_part {a : α} (hv : v.isTable = true) (h : v.field? p name decode = .ok (some a))
    (hp : (v.get? name).any isTable = true) :
    ∃ w, v.get? name = some w ∧ w.isTable = true ∧ decode w = .ok a := by
  obtain ⟨w, hw, ha⟩ := (field?_eq_some_iff p hv).1 h
  rw [hw] at hp
  exact ⟨w, hw, hp, ha⟩

lemma isTable_of_get? {w : Value} (h : v.get? name = some w) : v.isTable = true := by
  cases v with
  | table => rfl
  | _ => cases h

lemma asCount_str_eq_ok_iff {o : Option String} {s : String} {n : Nat} :
    asCount (.scalar o (.str s)) = .ok n ↔ countOfText? s = some n := by
  rw [asCount]
  cases countOfText? s <;> simp

end Config.Value

namespace Settings

open Config Config.Value

lemma decodeUrl_str_eq_ok_iff {o : Option String} {s : String} {u : Url} :
    decodeUrl (.scalar o (.str s)) = .ok u ↔ Url.read s = .ok u := by
  simp only [decodeUrl, asText, bind_eq_ok_iff, Except.ok.injEq, exists_eq_left']
  cases Url.read s with
  | error e => simp [throw, throwThe, MonadExceptOf.throw]
  | ok u' => simp [pure, Except.pure]

/-- The settings say the text, so it can be set again. -/
lemma TextSetting.set_eq_self {t : TextSetting} {v : String} {s : Settings}
    (h : t.texts s = [v]) : t.set v s = s := by
  cases t <;> simp [texts, Option.toList_eq_singleton_iff] at h <;> simp [set, ← h]

/-! ### Keys -/

/-- The keys that are documented. -/
inductive Key where
  | ofText (t : TextSetting)
  | url
  | timeout
  | pageSize
  | onSearchError
  | logPath
deriving DecidableEq, Repr

namespace Key

def name : Key → String
  | ofText t => t.key
  | url => "elasticsearch.url"
  | timeout => "elasticsearch.timeout"
  | pageSize => "query.page_size"
  | onSearchError => "on_search_error"
  | logPath => "logging.path"

/-- The variable of a key: the key in upper case after the prefix, with underscores for dots. -/
def variableName (k : Key) : String :=
  namePrefix ++ "_" ++
    String.ofList (k.name.toList.map fun c => if c = '.' then '_' else c.toUpper)

/-- Where the variable leads. -/
def path : Key → KeyPath
  | ofText t => t.path
  | url => ⟨"elasticsearch", [.key "url"]⟩
  | timeout => ⟨"elasticsearch", [.key "timeout"]⟩
  | pageSize => ⟨"query", [.key "page", .key "size"]⟩
  | onSearchError => ⟨"on", [.key "search", .key "error"]⟩
  | logPath => ⟨"logging", [.key "path"]⟩

/-- The part of the settings that has the key, if there must be one. -/
def part? : Key → Option String
  | ofText t => some t.part
  | url | timeout => some "elasticsearch"
  | pageSize => some "query"
  | onSearchError | logPath => none

/-- The settings with what a text says for the key, if the text is valid for it. -/
def set? (k : Key) (v : String) (s : Settings) : Option Settings :=
  match k with
  | ofText t =>
    if t = .indices then
      if splitIndices v = [] then none
      else some { s with query := { s.query with indices := splitIndices v } }
    else some (t.set v s)
  | url => (Url.read v).toOption.map fun u => { s with endpoint := { s.endpoint with url := u } }
  | timeout =>
    (countOfText? v).map fun n => { s with endpoint := { s.endpoint with timeout := n } }
  | pageSize => (countOfText? v).map fun n => { s with query := { s.query with pageSize := n } }
  | onSearchError => (policyNamed v).toOption.map fun p => { s with onSearchError := p }
  | logPath => some { s with logPath := some v }

variable {k : Key} {v v' : String} {c : Value} {s s' : Settings}

lemma readVariable?_variableName (k : Key) (v : String) :
    readVariable? namePrefix (k.variableName, v) =
      some (dotted k.name.toList, .scalar (some environmentOrigin) (.str v)) := by
  have hkey : (Text.toLower (namePrefix ++ "_")).toList.isPrefixOf
        (Text.toLower k.variableName).toList = true ∧
      dotted ((Text.toLower k.variableName).toList.drop
        (Text.toLower (namePrefix ++ "_")).toList.length) = dotted k.name.toList := by
    cases k with
    | ofText t => cases t <;> decide +kernel
    | _ => decide +kernel
  rw [readVariable?]
  dsimp only
  rw [if_pos hkey.1, hkey.2]

lemma read?_dotted (k : Key) : KeyPath.read? (dotted k.name.toList) = some k.path := by
  cases k with
  | ofText t => cases t <;> decide +kernel
  | _ => decide +kernel

lemma variableName_ne (k : Key) : k.variableName ≠ runModeVariable := by
  cases k with
  | ofText t => cases t <;> decide +kernel
  | _ => decide +kernel

/-! ### Readings of names -/

/-- A name is read as it is only if nothing in it is taken for a separator. -/
lemma dotted_eq_self_iff {s : String} : dotted s.toList = s ↔ '_' ∉ s.toList := by
  have hmap : dotted s.toList = s ↔
      s.toList.map (fun c => if c = '_' then '.' else c) = s.toList.map id := by
    rw [dotted, ← String.toList_inj, String.toList_ofList, List.map_id]
  rw [hmap, List.map_inj_left]
  constructor
  · intro h hm
    exact absurd (h '_' hm) (by decide)
  · intro h c hc
    refine if_neg ?_
    rintro rfl
    exact h hc

/-- The key that the variable is read as. -/
def readName (k : Key) : String :=
  dotted k.name.toList

lemma underscore_mem_name_iff : '_' ∈ k.name.toList ↔ k = pageSize ∨ k = onSearchError := by
  cases k with
  | ofText t => cases t <;> decide +kernel
  | _ => decide +kernel

lemma readName_eq_name_iff : k.readName = k.name ↔ k ≠ pageSize ∧ k ≠ onSearchError := by
  rw [readName, dotted_eq_self_iff, underscore_mem_name_iff, not_or]

/-! ### Texts at keys -/

/-- A configuration with a text where the variable leads. -/
def assigned (k : Key) (v : String) (c : Value) : Value :=
  KeyPath.assignSteps (.scalar (some environmentOrigin) (.str v)) c k.path.steps

lemma exists_steps_path (k : Key) : ∃ name names, k.path.steps = KeyPath.keys (name :: names) := by
  cases k with
  | pageSize => exact ⟨"query", ["page", "size"], rfl⟩
  | onSearchError => exact ⟨"on", ["search", "error"], rfl⟩
  | ofText t => exact ⟨t.part, [t.name], rfl⟩
  | url => exact ⟨"elasticsearch", ["url"], rfl⟩
  | timeout => exact ⟨"elasticsearch", ["timeout"], rfl⟩
  | logPath => exact ⟨"logging", ["path"], rfl⟩

/-- The last text counts. -/
lemma assigned_assigned (k : Key) (v v' : String) (c : Value) :
    k.assigned v (k.assigned v' c) = k.assigned v c := by
  obtain ⟨name, names, hp⟩ := k.exists_steps_path
  rw [assigned, assigned, assigned, hp]
  exact KeyPath.assignSteps_assignSteps rfl _ c name names

lemma assigned_pair {part name : String} (hp : k.path = ⟨part, [.key name]⟩) (v : String)
    (c : Value) :
    k.assigned v c = c.focus part fun old => (old.getD .nil).focus name fun _ =>
      .scalar (some environmentOrigin) (.str v) := by
  rw [assigned, hp]
  exact KeyPath.assignSteps_pair part name c rfl

lemma isTable_assigned (k : Key) (v : String) (c : Value) : (k.assigned v c).isTable = true := by
  obtain ⟨name, names, hp⟩ := k.exists_steps_path
  rw [assigned, hp, KeyPath.keys, List.map_cons, KeyPath.assignSteps_cons]
  exact isTable_focus ..

/-- The part of the settings that has the key is a table. -/
def InTable (k : Key) (c : Value) : Prop :=
  ∀ part ∈ k.part?, (c.get? part).any isTable = true

lemma inTable_assigned (hn : k.readName = k.name) (v : String) (c : Value) :
    k.InTable (k.assigned v c) := by
  obtain ⟨hpage, herror⟩ := readName_eq_name_iff.1 hn
  intro part hpart
  cases k with
  | pageSize => exact absurd rfl hpage
  | onSearchError => cases hpart
  | logPath => cases hpart
  | ofText t =>
    obtain rfl := Option.some.inj hpart
    rw [assigned_pair (k := ofText t) rfl, get?_focus, if_pos rfl]
    exact isTable_focus ..
  | url | timeout =>
    obtain rfl := Option.some.inj hpart
    rw [assigned_pair rfl, get?_focus, if_pos rfl]
    exact isTable_focus ..

section Focus

variable {f : Option Value → Value}

lemma decodeEndpoint_of_decode_focus (h : decode (c.focus "elasticsearch" f) = .ok s) :
    decodeEndpoint (f (c.get? "elasticsearch")) = .ok s.endpoint :=
  (field?_focus_self_iff _).1 (decode_eq_ok_iff.1 h).2.2.1

lemma decodeQuery_of_decode_focus (h : decode (c.focus "query" f) = .ok s) :
    decodeQuery (f (c.get? "query")) = .ok s.query :=
  (field?_focus_self_iff _).1 (decode_eq_ok_iff.1 h).2.2.2.1

lemma decodeLogging_focus {o : Option String} (w : Value) (v : String) :
    decodeLogging (w.focus "path" fun _ => .scalar o (.str v)) = .ok (some v) := by
  have hfield : (w.focus "path" fun _ => .scalar o (.str v)).field? loggingPart "path"
      asOptionText = .ok (some (some v)) :=
    (field?_focus_self_iff _).2 rfl
  rw [decodeLogging, part_focus, hfield]
  rfl

lemma decode_focus_logging {path : Option String} (hs : decode c = .ok s)
    (hc : c.isTable = true) (h : decodeLogging (f (c.get? "logging")) = .ok path) :
    decode (c.focus "logging" f) = .ok { s with logPath := path } := by
  rw [decode_eq_ok_iff] at hs ⊢
  obtain ⟨hm, -, he, hq, ho, hp⟩ := hs
  simp [field?_focus_of_ne _ hc, field?_focus_self _ h, map_ok, hm, he, hq, ho, hp]

end Focus

/-- Whatever else the settings are, they say what the text says. -/
lemma set?_of_decode_assigned (hn : k.readName = k.name) (hs : decode (k.assigned v c) = .ok s) :
    k.set? v s = some s := by
  obtain ⟨hpage, herror⟩ := readName_eq_name_iff.1 hn
  cases k with
  | pageSize => exact absurd rfl hpage
  | onSearchError => exact absurd rfl herror
  | ofText t =>
    by_cases hi : t = .indices
    · subst hi
      rw [assigned_pair rfl] at hs
      have hq := decodeQuery_of_decode_focus hs
      have hnames := (field?_focus_self_iff _).1 (decodeQuery_eq_ok_iff.1 hq).2.1
      rw [decodeIndices_eq_ok_iff, indexNames?, Option.some.injEq] at hnames
      obtain ⟨hne, hnames⟩ := hnames
      rw [set?, if_pos rfl, hnames, if_neg hne]
    · have htexts : t.texts s = [v] := (TextSetting.texts_of_decode_assign (x := .str v) (by simp)
        (fun _ _ ht => absurd ht hi) hs).2
      rw [set?, if_neg hi, TextSetting.set_eq_self htexts]
  | url =>
    rw [assigned_pair rfl] at hs
    have he := decodeEndpoint_of_decode_focus hs
    have hurl := (field?_focus_self_iff _).1 (decodeEndpoint_eq_ok_iff.1 he).2.1
    rw [decodeUrl_str_eq_ok_iff] at hurl
    rw [set?, hurl]
    rfl
  | timeout =>
    rw [assigned_pair rfl] at hs
    have he := decodeEndpoint_of_decode_focus hs
    have htimeout := (field?_focus_self_iff _).1 (decodeEndpoint_eq_ok_iff.1 he).2.2.1
    rw [asCount_str_eq_ok_iff] at htimeout
    rw [set?, htimeout]
    rfl
  | logPath =>
    rw [assigned_pair rfl, decode_eq_ok_iff] at hs
    obtain ⟨-, hlogging, -⟩ := hs
    rw [field?_focus_self _ (decodeLogging_focus _ v), map_ok] at hlogging
    have hpath : some v = s.logPath := Except.ok.inj hlogging
    rw [set?, hpath]

/-- Where the endpoint has the key, only the endpoint is of account. -/
lemma decode_assigned_of_endpoint {name : String} (hk : k.path = ⟨"elasticsearch", [.key name]⟩)
    (hpart : k.part? = some "elasticsearch") (hc : c.isTable = true) (hp : k.InTable c)
    (hs : decode c = .ok s) {e : Search.Endpoint}
    (he : ∀ w : Value, w.isTable = true → decodeEndpoint w = .ok s.endpoint →
      decodeEndpoint (w.focus name fun _ => .scalar (some environmentOrigin) (.str v)) = .ok e) :
    decode (k.assigned v c) = .ok { s with endpoint := e } := by
  obtain ⟨-, -, hendpoint, -⟩ := decode_eq_ok_iff.1 hs
  obtain ⟨w, hw, hwt, hwe⟩ := exists_part hc hendpoint (hp _ hpart)
  rw [assigned_pair hk]
  apply TextSetting.decode_focus_elasticsearch hs hc
  rw [hw]
  exact he w hwt hwe

/-- A text that is valid is what the settings say, and no other setting changes. -/
lemma decode_assigned (hn : k.readName = k.name) (hc : c.isTable = true) (hp : k.InTable c)
    (hs : decode c = .ok s) (hv : k.set? v s = some s') : decode (k.assigned v c) = .ok s' := by
  obtain ⟨hpage, herror⟩ := readName_eq_name_iff.1 hn
  cases k with
  | pageSize => exact absurd rfl hpage
  | onSearchError => exact absurd rfl herror
  | ofText t =>
    by_cases hi : t = .indices
    · subst hi
      obtain ⟨w, hw, hwt, hq⟩ := exists_part hc (decode_eq_ok_iff.1 hs).2.2.2.1 (hp _ rfl)
      rw [set?, if_pos rfl] at hv
      split_ifs at hv with hne
      obtain rfl := Option.some.inj hv
      have hindices : decodeIndices (.scalar (some environmentOrigin) (.str v)) =
          .ok (splitIndices v) := decodeIndices_eq_ok_iff.2 ⟨hne, rfl⟩
      rw [assigned_pair rfl]
      apply TextSetting.decode_focus_query hs hc
      rw [hw, Option.getD_some]
      rw [decodeQuery_eq_ok_iff] at hq ⊢
      obtain ⟨-, -, hn, hs, hf, hd, hg, hl⟩ := hq
      simp [TextSetting.name, part_focus, field?_focus_of_ne _ hwt, field?_focus_self_iff,
        hindices, hn, hs, hf, hd, hg, hl]
    · obtain ⟨w, hw, hwt⟩ := (Option.any_eq_true _ _).1 (hp t.part rfl)
      rw [set?, if_neg hi] at hv
      rw [← Option.some.inj hv]
      exact TextSetting.decode_assign (by simp) (fun _ _ ht => absurd ht hi) (fun _ => rfl) hs hc
        hw hwt
  | url =>
    cases hread : Url.read v with
    | error e => simp [set?, hread, Except.toOption] at hv
    | ok u =>
      obtain rfl : { s with endpoint := { s.endpoint with url := u } } = s' := by
        simpa [set?, hread, Except.toOption] using hv
      refine decode_assigned_of_endpoint rfl rfl hc hp hs fun w hwt he => ?_
      rw [decodeEndpoint_eq_ok_iff] at he ⊢
      obtain ⟨-, -, ht, hu, hp⟩ := he
      simp [part_focus, field?_focus_of_ne _ hwt, field?_focus_self_iff,
        decodeUrl_str_eq_ok_iff.2 hread, ht, hu, hp]
  | timeout =>
    obtain ⟨n, hcount, rfl⟩ := Option.map_eq_some_iff.1 hv
    refine decode_assigned_of_endpoint rfl rfl hc hp hs fun w hwt he => ?_
    rw [decodeEndpoint_eq_ok_iff] at he ⊢
    obtain ⟨-, hurl, -, hu, hp⟩ := he
    simp [part_focus, field?_focus_of_ne _ hwt, field?_focus_self_iff,
      asCount_str_eq_ok_iff.2 hcount, hurl, hu, hp]
  | logPath =>
    rw [assigned_pair rfl, ← Option.some.inj hv]
    exact decode_focus_logging hs hc (decodeLogging_focus _ v)

/-! ### Texts at other keys -/

section Focus

variable {f : Option Value → Value} {w : Value} {q : QuerySettings}

lemma decodeQuery_focus_page_iff (hw : w.isTable = true) :
    decodeQuery (w.focus "page" f) = .ok q ↔ decodeQuery w = .ok q := by
  have hpart : w.part queryPart = .ok () := by
    cases w with
    | scalar => cases hw
    | _ => rfl
  simp [decodeQuery_eq_ok_iff, field?_focus_of_ne _ hw, part_focus, hpart]

/-- Only the query is of account where it is changed. -/
lemma decode_of_decode_focus_query (hc : c.isTable = true) (hs : decode (c.focus "query" f) = .ok s)
    (hw : c.get? "query" = some w) (hq : decodeQuery w = .ok s.query) : decode c = .ok s := by
  have hfield : c.field? settingsPart "query" decodeQuery = .ok (some s.query) :=
    (field?_eq_some_iff _ hc).2 ⟨w, hw, hq⟩
  rw [decode_eq_ok_iff] at hs ⊢
  obtain ⟨hm, hl, he, -, ho, hp⟩ := hs
  rw [field?_focus_of_ne _ hc (by decide)] at hm hl he ho hp
  exact ⟨hm, hl, he, hfield, ho, hp⟩

/-- There are no indices in what was no table. -/
lemma isTable_of_decodeQuery_focus (h : decodeQuery (w.focus "page" f) = .ok q) :
    w.isTable = true := by
  obtain ⟨v, hv, -⟩ := (field?_eq_some_iff _ (isTable_focus ..)).1 (decodeQuery_eq_ok_iff.1 h).2.1
  rw [get?_focus, if_neg (by decide)] at hv
  exact isTable_of_get? hv

/-- A page of its own in the query is of no account, if the query is a table without it. -/
lemma decode_focus_page_iff (hc : c.isTable = true) :
    decode (c.focus "query" fun old => (old.getD .nil).focus "page" f) = .ok s ↔
      decode c = .ok s ∧ (c.get? "query").any isTable = true := by
  constructor
  · intro hs
    have hq := decodeQuery_of_decode_focus hs
    have hwt := isTable_of_decodeQuery_focus hq
    rw [decodeQuery_focus_page_iff hwt] at hq
    cases hw : c.get? "query" with
    | none =>
      rw [hw] at hwt
      cases hwt
    | some w =>
      rw [hw, Option.getD_some] at hq hwt
      exact ⟨decode_of_decode_focus_query hc hs hw hq, hwt⟩
  · rintro ⟨hs, hp⟩
    obtain ⟨w, hw, hwt, hq⟩ := exists_part hc (decode_eq_ok_iff.1 hs).2.2.2.1 hp
    apply TextSetting.decode_focus_query (q := s.query) hs hc
    rw [hw]
    exact (decodeQuery_focus_page_iff hwt).2 hq

end Focus

/-- A text at a key that is not of the settings changes nothing. -/
lemma decode_assigned_iff (hn : k.readName ≠ k.name) (hc : c.isTable = true) :
    decode (k.assigned v c) = .ok s ↔ decode c = .ok s ∧ k.InTable c := by
  have hk : k = pageSize ∨ k = onSearchError := by
    by_contra h
    exact hn (readName_eq_name_iff.2 (not_or.1 h))
  rcases hk with rfl | rfl
  · have hfocus : pageSize.assigned v c = c.focus "query" fun old =>
        (old.getD .nil).focus "page" (KeyPath.placed
          (.scalar (some environmentOrigin) (.str v)) [.key "size"]) :=
      (KeyPath.assignSteps_cons ..).trans
        (congrArg (focus "query" · c) (funext fun old => KeyPath.assignSteps_cons ..))
    have hin : pageSize.InTable c ↔ (c.get? "query").any isTable = true :=
      ⟨fun h => h _ rfl, fun h part hpart => by rwa [← Option.some.inj hpart]⟩
    rw [hfocus, hin, decode_focus_page_iff hc]
  · have hin : onSearchError.InTable c := nofun
    have hfocus : onSearchError.assigned v c = c.focus "on" (KeyPath.placed
        (.scalar (some environmentOrigin) (.str v)) [.key "search", .key "error"]) :=
      KeyPath.assignSteps_cons ..
    rw [hfocus]
    simp [decode_eq_ok_iff, field?_focus_of_ne _ hc, hin]

/-! ### Requests -/

/-- The part of the settings that has the key is given as a table. -/
def HasPart (k : Key) (r : Request) (env : Environment) (files : FileTree) (formats : Formats) :
    Prop :=
  ∀ c, r.configuration env files formats = .ok c → k.InTable c

section Requests

variable {r : Request} {before after : Environment}
  (hb : VariablesLeadThere before namePrefix k.readName k.path)
  (ha : VariablesLeadElsewhere after namePrefix k.path) (ho : LeadElsewhere r.overrides k.path)

include hb ha ho

/-- With the variable, its text is assigned in what is resolved without it. -/
lemma resolve_eq_ok_iff {files : FileTree} {formats : Formats} :
    resolve r (before ++ (k.variableName, v) :: after) files formats = .ok s ↔
      ∃ c, r.configuration (before ++ after) files formats = .ok c ∧
        decode (k.assigned v c) = .ok s := by
  obtain ⟨name, names, hp⟩ := k.exists_steps_path
  have hr := Sources.resolve_variable (s := r.sources) hp (readVariable?_variableName k v)
    k.read?_dotted k.variableName_ne hb ha ho files formats
  rw [← configuration_eq_resolve, ← configuration_eq_resolve] at hr
  rw [TextSetting.resolve_eq_ok_iff, hr]
  simp only [map_eq_ok_iff]
  constructor
  · rintro ⟨_, ⟨c, hc, rfl⟩, hs⟩
    exact ⟨c, hc, hs⟩
  · rintro ⟨c, hc, hs⟩
    exact ⟨_, ⟨c, hc, rfl⟩, hs⟩

/-- A variable that is read as its key makes the setting what its text says. If there are settings
they say it; there are settings with any valid text if there are with one, or if there are without
the variable, and no other setting changes. A variable that is read as another key changes nothing.
That is so for keys with an underscore: those of the size of a page and of what happens when a
search fails. -/
theorem resolve_variableName (files : FileTree) (formats : Formats) :
    let given (v : String) := resolve r (before ++ (k.variableName, v) :: after) files formats
    let rest := resolve r (before ++ after) files formats
    (k.readName = k.name ↔ '_' ∉ k.name.toList) ∧
    ('_' ∈ k.name.toList ↔ k = pageSize ∨ k = onSearchError) ∧
    (k.readName = k.name → ∀ v s,
      (given v = .ok s → k.set? v s = some s) ∧
      ∀ s', k.set? v s = some s' →
        (∀ v', given v' = .ok s → given v = .ok s') ∧
        (k.HasPart r (before ++ after) files formats → rest = .ok s → given v = .ok s')) ∧
    (k.readName ≠ k.name → ∀ v s,
      given v = .ok s ↔ rest = .ok s ∧ k.HasPart r (before ++ after) files formats) := by
  intro given rest
  have hgiven : ∀ {v s}, given v = .ok s ↔
      ∃ c, r.configuration (before ++ after) files formats = .ok c ∧
        decode (k.assigned v c) = .ok s := resolve_eq_ok_iff hb ha ho
  refine ⟨dotted_eq_self_iff, underscore_mem_name_iff,
    fun hn v s => ⟨fun hs => ?_, fun s' hv => ⟨fun v' hs => ?_, ?_⟩⟩, fun hn v s => ?_⟩
  · obtain ⟨c, -, hs⟩ := hgiven.1 hs
    exact set?_of_decode_assigned hn hs
  · obtain ⟨c, hc, hs⟩ := hgiven.1 hs
    refine hgiven.2 ⟨c, hc, ?_⟩
    rw [← assigned_assigned k v v' c]
    exact decode_assigned hn (isTable_assigned ..) (inTable_assigned hn v' c) hs hv
  · intro hp hs
    obtain ⟨c, hc, hs⟩ := TextSetting.resolve_eq_ok_iff.1 hs
    exact hgiven.2 ⟨c, hc, decode_assigned hn (isTable_of_configuration hc) (hp c hc) hs hv⟩
  · rw [hgiven, TextSetting.resolve_eq_ok_iff]
    constructor
    · rintro ⟨c, hc, hs⟩
      obtain ⟨hs, hp⟩ := (decode_assigned_iff hn (isTable_of_configuration hc)).1 hs
      refine ⟨⟨c, hc, hs⟩, fun c' hc' => ?_⟩
      obtain rfl := Except.ok.inj (hc.symm.trans hc')
      exact hp
    · rintro ⟨⟨c, hc, hs⟩, hp⟩
      exact ⟨c, hc, (decode_assigned_iff hn (isTable_of_configuration hc)).2 ⟨hs, hp c hc⟩⟩

end Requests

/-- The names of indices are set by their variable, the size of a page is not. -/
theorem resolve_variableName_of_page :
    let request := TextSetting.sampleRequest []
    let files := TextSetting.sampleFiles
    let sample := TextSetting.sample
    resolve request [("ESEXPORT_QUERY_INDICES", "b, c")] files .basic =
        .ok { sample with query := { sample.query with indices := ["b", "c"] } } ∧
      resolve request [("ESEXPORT_QUERY_PAGE_SIZE", "7")] files .basic = .ok sample ∧
      pageSize.set? "7" sample ≠ some sample := by
  intro request files sample
  have hsample : resolve request [] files .basic = .ok sample := TextSetting.resolve_sample
  have hpart : ∀ k : Key, k.part? = some "query" → k.HasPart request [] files .basic := by
    rintro k hk c hc part hpart
    obtain rfl : part = "query" := Option.some.inj (hpart.symm.trans hk)
    exact TextSetting.hasPart_sample .indices c hc
  have hb (k : Key) : VariablesLeadThere [] namePrefix k.readName k.path := nofun
  have ha (k : Key) : VariablesLeadElsewhere [] namePrefix k.path := nofun
  have ho (k : Key) : LeadElsewhere request.overrides k.path := nofun
  have hindices : (ofText .indices).variableName = "ESEXPORT_QUERY_INDICES" := by decide +kernel
  have hsize : pageSize.variableName = "ESEXPORT_QUERY_PAGE_SIZE" := by decide +kernel
  refine ⟨?_, ?_, by decide +kernel⟩
  · rw [← hindices]
    obtain ⟨-, -, hset, -⟩ := resolve_variableName (hb (ofText .indices)) (ha _) (ho _) files .basic
    refine ((hset (by decide +kernel) "b, c" sample).2 _ ?_).2 (hpart _ rfl) hsample
    decide +kernel
  · rw [← hsize]
    obtain ⟨-, -, -, hsame⟩ := resolve_variableName (hb pageSize) (ha _) (ho _) files .basic
    exact (hsame (by decide +kernel) "7" sample).2 ⟨hsample, hpart _ rfl⟩

end Key

end Settings

end ScrollExport
