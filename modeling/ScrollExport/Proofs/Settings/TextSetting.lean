import ScrollExport.Proofs.Config.Insertion
import ScrollExport.Proofs.Config.Layering
import ScrollExport.Proofs.Text.Pieces

/-!
# Settings that are texts

A value that is assigned at the key of such a setting is what the setting says, and no other setting
changes (`decode_assign`). An override is first read as a boolean, a number or a text, so the
setting has the normal spelling of a number; a variable is taken as it is.
-/

namespace ScrollExport

namespace Config

open Number

/-! ### Texts of scalars -/

/-- The text that a scalar stands for. -/
def Scalar.text : Scalar → String
  | .nil => ""
  | .bool b => if b then "true" else "false"
  | .int i => intText i
  | .float x => x.plainText
  | .str s => s

lemma Scalar.ofText_ne_nil (s : String) : Scalar.ofText s ≠ .nil := by
  rw [Scalar.ofText]
  split_ifs
  · simp
  · simp
  · split
    · simp
    · split <;> simp

lemma Scalar.eq_of_ofText_eq_str {s name : String} (h : Scalar.ofText s = .str name) :
    name = s := by
  rw [Scalar.ofText] at h
  split_ifs at h
  split at h
  · cases h
  · split at h
    · cases h
    · exact (Scalar.str.inj h).symm

/-- A text stands for itself unless it is a number in another than its normal spelling. -/
lemma Scalar.text_ofText_eq_self_iff (s : String) :
    (Scalar.ofText s).text = s ↔
      (∀ i, signed? s.toList = some i → intText i = s) ∧
        (signed? s.toList = none → ∀ x, FloatText.read? s = some x → x.plainText = s) := by
  by_cases ht : s = "true"
  · subst ht
    decide +kernel
  · by_cases hf : s = "false"
    · subst hf
      decide +kernel
    · rw [Scalar.ofText, if_neg ht, if_neg hf]
      cases signed? s.toList with
      | some i => simp [Scalar.text]
      | none => cases FloatText.read? s <;> simp [Scalar.text]

namespace Value

variable {o : Option String} {x : Scalar}

lemma asText_scalar (hx : x ≠ .nil) : asText (.scalar o x) = .ok x.text := by
  cases x with
  | nil => exact absurd rfl hx
  | _ => rfl

lemma asOptionText_scalar (hx : x ≠ .nil) : asOptionText (.scalar o x) = .ok (some x.text) := by
  cases x with
  | nil => exact absurd rfl hx
  | _ => rfl

/-! ### Fields -/

variable {α : Type} {v : Value} {name key : String} {f : Option Value → Value} (p : PartName)
  {decode : Value → Decoded α}

lemma field?_eq_some_iff (ht : v.isTable = true) {a : α} :
    v.field? p name decode = .ok (some a) ↔ ∃ w, v.get? name = some w ∧ decode w = .ok a := by
  cases v with
  | scalar | arr => cases ht
  | table o es =>
    rw [field?, located?]
    show _ ↔ ∃ w, Entries.get? es name = some w ∧ _
    cases Entries.get? es name with
    | none => simp
    | some w => cases hw : decode w <;> simp [hw]

/-- A field of another name is as it was. -/
lemma field?_focus_of_ne (ht : v.isTable = true) (hn : name ≠ key) :
    (v.focus key f).field? p name decode = v.field? p name decode := by
  cases v with
  | scalar | arr => cases ht
  | table o es => simp [focus, mapEntries, field?, located?, hn]

lemma field?_focus_self_iff {a : α} :
    (v.focus key f).field? p key decode = .ok (some a) ↔ decode (f (v.get? key)) = .ok a := by
  rw [field?_eq_some_iff p (isTable_focus ..), get?_focus, if_pos rfl]
  simp

lemma field?_focus_self {a : α} (h : decode (f (v.get? key)) = .ok a) :
    (v.focus key f).field? p key decode = .ok (some a) :=
  (field?_focus_self_iff p).2 h

lemma part_focus : (v.focus key f).part p = .ok () := by
  cases v <;> rfl

lemma required_eq_ok_iff {field : Option α} {a : α} :
    v.required p name field = .ok a ↔ field = some a := by
  cases field <;> simp [required]

end Value

/-- A value that is no table, assigned at a key of a part. -/
lemma KeyPath.assignSteps_pair (part name : String) {x : Value} (v : Value)
    (hx : x.isTable = false) :
    KeyPath.assignSteps x v [.key part, .key name] =
      v.focus part fun old => (old.getD .nil).focus name fun _ => x := by
  rw [KeyPath.assignSteps_cons]
  refine congrArg (Value.focus part · v) (funext fun old => ?_)
  rw [KeyPath.placed, KeyPath.assignSteps_cons]
  refine congrArg (Value.focus name · _) (funext fun old => ?_)
  exact Value.merged_of_isTable hx old

end Config

namespace Settings

open Config Config.Value

/-! ### Decoding -/

lemma decodeEndpoint_eq_ok_iff {v : Value} {e : Search.Endpoint} :
    decodeEndpoint v = .ok e ↔ v.part endpointPart = .ok () ∧
      v.field? endpointPart "url" decodeUrl = .ok (some e.url) ∧
      v.field? endpointPart "timeout" asCount = .ok (some e.timeout) ∧
      (v.field? endpointPart "username" asOptionText).map Option.join = .ok e.username ∧
      (v.field? endpointPart "password" asOptionText).map Option.join = .ok e.password := by
  simp only [decodeEndpoint, bind_eq_ok_iff, pure_eq_ok_iff, required_eq_ok_iff, map_eq_ok_iff]
  constructor
  · rintro ⟨⟨⟩, hp, url, hu, timeout, ht, username, hn, password, hw, u, rfl, t, rfl, rfl⟩
    exact ⟨hp, hu, ht, ⟨username, hn, rfl⟩, ⟨password, hw, rfl⟩⟩
  · rintro ⟨hp, hu, ht, ⟨username, hn, he⟩, ⟨password, hw, he'⟩⟩
    exact ⟨(), hp, _, hu, _, ht, username, hn, password, hw, _, rfl, _, rfl, by rw [he, he']⟩

lemma decodeQuery_eq_ok_iff {v : Value} {q : QuerySettings} :
    decodeQuery v = .ok q ↔ v.part queryPart = .ok () ∧
      v.field? queryPart "indices" decodeIndices = .ok (some q.indices) ∧
      v.field? queryPart "page_size" asCount = .ok (some q.pageSize) ∧
      v.field? queryPart "scroll" asText = .ok (some q.scroll) ∧
      v.field? queryPart "field" asText = .ok (some q.field) ∧
      v.field? queryPart "format" asText = .ok (some q.format) ∧
      (v.field? queryPart "gte" asOptionText).map Option.join = .ok q.gte ∧
      (v.field? queryPart "lte" asOptionText).map Option.join = .ok q.lte := by
  simp only [decodeQuery, bind_eq_ok_iff, pure_eq_ok_iff, required_eq_ok_iff, map_eq_ok_iff]
  constructor
  · rintro ⟨⟨⟩, hp, _, hi, _, hn, _, hs, _, hf, _, hd, _, hg, _, hl, _, rfl, _, rfl, _, rfl, _, rfl,
      _, rfl, rfl⟩
    exact ⟨hp, hi, hn, hs, hf, hd, ⟨_, hg, rfl⟩, ⟨_, hl, rfl⟩⟩
  · rintro ⟨hp, hi, hn, hs, hf, hd, ⟨_, hg, he⟩, ⟨_, hl, he'⟩⟩
    exact ⟨(), hp, _, hi, _, hn, _, hs, _, hf, _, hd, _, hg, _, hl, _, rfl, _, rfl, _, rfl, _, rfl,
      _, rfl, by rw [he, he']⟩

lemma decodeOutput_eq_ok_iff {v : Value} {o : OutputSettings} :
    decodeOutput v = .ok o ↔ v.part outputPart = .ok () ∧
      v.field? outputPart "json" asText = .ok (some o.json) ∧
      v.field? outputPart "csv" asText = .ok (some o.csv) ∧
      v.field? outputPart "html" asText = .ok (some o.html) ∧
      v.field? outputPart "delimiter" asText = .ok (some o.delimiter) := by
  simp only [decodeOutput, bind_eq_ok_iff, pure_eq_ok_iff, required_eq_ok_iff]
  constructor
  · rintro ⟨⟨⟩, hp, _, hj, _, hc, _, hh, _, hd, _, rfl, _, rfl, _, rfl, _, rfl, rfl⟩
    exact ⟨hp, hj, hc, hh, hd⟩
  · rintro ⟨hp, hj, hc, hh, hd⟩
    exact ⟨(), hp, _, hj, _, hc, _, hh, _, hd, _, rfl, _, rfl, _, rfl, _, rfl, rfl⟩

lemma decode_eq_ok_iff {v : Value} {s : Settings} :
    decode v = .ok s ↔
      (v.field? settingsPart "mode" asOptionText).map Option.join = .ok s.mode ∧
      (v.field? settingsPart "logging" decodeLogging).map Option.join = .ok s.logPath ∧
      v.field? settingsPart "elasticsearch" decodeEndpoint = .ok (some s.endpoint) ∧
      v.field? settingsPart "query" decodeQuery = .ok (some s.query) ∧
      v.field? settingsPart "output" decodeOutput = .ok (some s.output) ∧
      (v.field? settingsPart "on_search_error" decodePolicy).map (·.getD .discard) =
        .ok s.onSearchError := by
  simp only [decode, bind_eq_ok_iff, pure_eq_ok_iff, required_eq_ok_iff, map_eq_ok_iff]
  constructor
  · rintro ⟨_, hm, _, hl, _, he, _, hq, _, ho, _, hp, _, rfl, _, rfl, _, rfl, rfl⟩
    exact ⟨⟨_, hm, rfl⟩, ⟨_, hl, rfl⟩, he, hq, ho, ⟨_, hp, rfl⟩⟩
  · rintro ⟨⟨_, hm, hm'⟩, ⟨_, hl, hl'⟩, he, hq, ho, ⟨_, hp, hp'⟩⟩
    exact ⟨_, hm, _, hl, _, he, _, hq, _, ho, _, hp, _, rfl, _, rfl, _, rfl, by rw [hm', hl', hp']⟩

/-! ### Indices -/

/-- A text without commas and without blanks around it names one index. -/
def IsSingleName (s : String) : Prop :=
  s ≠ "" ∧ ',' ∉ s.toList ∧ Text.trim s = s

lemma splitIndices_of_isSingleName {s : String} (h : IsSingleName s) : splitIndices s = [s] := by
  obtain ⟨hne, hcomma, htrim⟩ := h
  simp [splitIndices, Text.split, Text.splitChars_of_notMem hcomma, htrim, hne]

lemma decodeIndices_scalar_eq_ok_iff {o : Option String} {x : Scalar}
    (h : ∀ name, x = .str name → IsSingleName name) {names : List String} :
    decodeIndices (.scalar o x) = .ok names ↔ x = .str x.text ∧ names = [x.text] := by
  cases x with
  | str s =>
    have hs : splitIndices s = [s] := splitIndices_of_isSingleName (h s rfl)
    simp [decodeIndices, indexNames?, hs, Scalar.text, eq_comm]
  | _ => simp [decodeIndices, indexNames?]

/-! ### Text settings -/

/-- The settings that are texts. -/
inductive TextSetting where
  | username
  | password
  | scroll
  | field
  | format
  | gte
  | lte
  | indices
  | json
  | csv
  | html
  | delimiter
deriving DecidableEq, Repr

namespace TextSetting

/-- The part of the settings that has it. -/
def part : TextSetting → String
  | username | password => "elasticsearch"
  | scroll | field | format | gte | lte | indices => "query"
  | json | csv | html | delimiter => "output"

/-- Its name in the part. -/
def name : TextSetting → String
  | username => "username"
  | password => "password"
  | scroll => "scroll"
  | field => "field"
  | format => "format"
  | gte => "gte"
  | lte => "lte"
  | indices => "indices"
  | json => "json"
  | csv => "csv"
  | html => "html"
  | delimiter => "delimiter"

/-- The key of an override. -/
def key (t : TextSetting) : String :=
  t.part ++ "." ++ t.name

/-- The name of a variable, in lower case. -/
def variableName (t : TextSetting) : String :=
  "esexport_" ++ t.part ++ "_" ++ t.name

def path (t : TextSetting) : KeyPath :=
  ⟨t.part, [.key t.name]⟩

/-- What the setting says: nothing, one text, or several names. -/
def texts (t : TextSetting) (s : Settings) : List String :=
  match t with
  | username => s.endpoint.username.toList
  | password => s.endpoint.password.toList
  | scroll => [s.query.scroll]
  | field => [s.query.field]
  | format => [s.query.format]
  | gte => s.query.gte.toList
  | lte => s.query.lte.toList
  | indices => s.query.indices
  | json => [s.output.json]
  | csv => [s.output.csv]
  | html => [s.output.html]
  | delimiter => [s.output.delimiter]

/-- The settings with one text for this one. -/
def set (t : TextSetting) (v : String) (s : Settings) : Settings :=
  match t with
  | username => { s with endpoint := { s.endpoint with username := some v } }
  | password => { s with endpoint := { s.endpoint with password := some v } }
  | scroll => { s with query := { s.query with scroll := v } }
  | field => { s with query := { s.query with field := v } }
  | format => { s with query := { s.query with format := v } }
  | gte => { s with query := { s.query with gte := some v } }
  | lte => { s with query := { s.query with lte := some v } }
  | indices => { s with query := { s.query with indices := [v] } }
  | json => { s with output := { s.output with json := v } }
  | csv => { s with output := { s.output with csv := v } }
  | html => { s with output := { s.output with html := v } }
  | delimiter => { s with output := { s.output with delimiter := v } }

/-- Indices are named by texts only. -/
def Accepts (t : TextSetting) (x : Scalar) : Prop :=
  t = indices → x = .str x.text

/-- What can be given for the setting: any text, or for the indices the name of one. -/
def IsValid (t : TextSetting) (v : String) : Prop :=
  t = indices → IsSingleName v

variable {t : TextSetting} {v : Value} {o : Option String} {x : Scalar} {s : Settings}

lemma assignSteps_path (t : TextSetting) (x v : Value) (hx : x.isTable = false) :
    KeyPath.assignSteps x v t.path.steps =
      v.focus t.part fun old => (old.getD .nil).focus t.name fun _ => x :=
  KeyPath.assignSteps_pair t.part t.name v hx

section Parts

variable {f : Option Value → Value} (hs : decode v = .ok s) (hv : v.isTable = true)

include hs hv

lemma decode_focus_elasticsearch {e : Search.Endpoint}
    (h : decodeEndpoint (f (v.get? "elasticsearch")) = .ok e) :
    decode (v.focus "elasticsearch" f) = .ok { s with endpoint := e } := by
  rw [decode_eq_ok_iff] at hs ⊢
  obtain ⟨hm, hl, -, hq, ho, hp⟩ := hs
  simp [field?_focus_of_ne _ hv, field?_focus_self _ h, hm, hl, hq, ho, hp]

lemma decode_focus_query {q : QuerySettings} (h : decodeQuery (f (v.get? "query")) = .ok q) :
    decode (v.focus "query" f) = .ok { s with query := q } := by
  rw [decode_eq_ok_iff] at hs ⊢
  obtain ⟨hm, hl, he, -, ho, hp⟩ := hs
  simp [field?_focus_of_ne _ hv, field?_focus_self _ h, hm, hl, he, ho, hp]

lemma decode_focus_output {o : OutputSettings} (h : decodeOutput (f (v.get? "output")) = .ok o) :
    decode (v.focus "output" f) = .ok { s with output := o } := by
  rw [decode_eq_ok_iff] at hs ⊢
  obtain ⟨hm, hl, he, hq, -, hp⟩ := hs
  simp [field?_focus_of_ne _ hv, field?_focus_self _ h, hm, hl, he, hq, hp]

end Parts

/-- A scalar that is assigned at the key of the setting is what it says, and nothing else
changes. -/
lemma decode_assign (hx : x ≠ .nil) (hi : ∀ name, x = .str name → t.IsValid name)
    (ha : t.Accepts x) (hs : decode v = .ok s) (hv : v.isTable = true) {w : Value}
    (hw : v.get? t.part = some w) (hwt : w.isTable = true) :
    decode (KeyPath.assignSteps (.scalar o x) v t.path.steps) = .ok (t.set x.text s) := by
  rw [assignSteps_path t _ v rfl]
  have htext : asText (.scalar o x) = .ok x.text := asText_scalar hx
  have hoption : asOptionText (.scalar o x) = .ok (some x.text) := asOptionText_scalar hx
  obtain ⟨-, -, he, hq, ho, -⟩ := decode_eq_ok_iff.1 hs
  cases t with
  | username | password =>
    obtain ⟨w', hw', he⟩ := (field?_eq_some_iff _ hv).1 he
    obtain rfl : w = w' := Option.some.inj (hw.symm.trans hw')
    apply decode_focus_elasticsearch hs hv
    rw [decodeEndpoint_eq_ok_iff] at he ⊢
    obtain ⟨-, hu, ht, hn, hp⟩ := he
    simp [hw', name, part_focus, field?_focus_of_ne _ hwt,
      field?_focus_self (f := fun _ => .scalar o x) _ hoption, map_ok, hu, ht, hn, hp]
  | scroll | field | format | gte | lte =>
    obtain ⟨w', hw', hq⟩ := (field?_eq_some_iff _ hv).1 hq
    obtain rfl : w = w' := Option.some.inj (hw.symm.trans hw')
    apply decode_focus_query hs hv
    rw [decodeQuery_eq_ok_iff] at hq ⊢
    obtain ⟨-, hi, hn, hs, hf, hd, hg, hl⟩ := hq
    simp [hw', name, part_focus, field?_focus_of_ne _ hwt,
      field?_focus_self (f := fun _ => .scalar o x) _ hoption,
      field?_focus_self (f := fun _ => .scalar o x) _ htext, map_ok, hi, hn, hs, hf, hd, hg, hl]
  | indices =>
    have hindices : decodeIndices (.scalar o x) = .ok [x.text] :=
      (decodeIndices_scalar_eq_ok_iff fun name hname => hi name hname rfl).2 ⟨ha rfl, rfl⟩
    obtain ⟨w', hw', hq⟩ := (field?_eq_some_iff _ hv).1 hq
    obtain rfl : w = w' := Option.some.inj (hw.symm.trans hw')
    apply decode_focus_query hs hv
    rw [decodeQuery_eq_ok_iff] at hq ⊢
    obtain ⟨-, hi, hn, hs, hf, hd, hg, hl⟩ := hq
    simp [hw', name, part_focus, field?_focus_of_ne _ hwt,
      field?_focus_self (f := fun _ => .scalar o x) _ hindices, hn, hs, hf, hd, hg, hl]
  | json | csv | html | delimiter =>
    obtain ⟨w', hw', ho⟩ := (field?_eq_some_iff _ hv).1 ho
    obtain rfl : w = w' := Option.some.inj (hw.symm.trans hw')
    apply decode_focus_output hs hv
    rw [decodeOutput_eq_ok_iff] at ho ⊢
    obtain ⟨-, hj, hc, hh, hd⟩ := ho
    simp [hw', name, part_focus, field?_focus_of_ne _ hwt,
      field?_focus_self (f := fun _ => .scalar o x) _ htext, hj, hc, hh, hd]

/-- Whatever else the settings are, they say what was assigned. -/
lemma texts_of_decode_assign (hx : x ≠ .nil) (hi : ∀ name, x = .str name → t.IsValid name)
    (hs : decode (KeyPath.assignSteps (.scalar o x) v t.path.steps) = .ok s) :
    t.Accepts x ∧ t.texts s = [x.text] := by
  rw [assignSteps_path t _ v rfl] at hs
  have htext : asText (.scalar o x) = .ok x.text := asText_scalar hx
  have hoption : asOptionText (.scalar o x) = .ok (some x.text) := asOptionText_scalar hx
  obtain ⟨-, -, he, hq, ho, -⟩ := decode_eq_ok_iff.1 hs
  cases t with
  | username | password =>
    obtain ⟨w, hw, he⟩ := (field?_eq_some_iff _ (isTable_focus ..)).1 he
    obtain rfl : _ = w := by simpa [part] using hw
    obtain ⟨-, -, -, hn, hp⟩ := decodeEndpoint_eq_ok_iff.1 he
    simp only [name, field?_focus_self (f := fun _ => .scalar o x) _ hoption, map_ok,
      Option.join_some, Except.ok.injEq] at hn hp
    refine ⟨nofun, ?_⟩
    simp [texts, ← hn, ← hp]
  | scroll | field | format | gte | lte =>
    obtain ⟨w, hw, hq⟩ := (field?_eq_some_iff _ (isTable_focus ..)).1 hq
    obtain rfl : _ = w := by simpa [part] using hw
    obtain ⟨-, -, -, hs, hf, hd, hg, hl⟩ := decodeQuery_eq_ok_iff.1 hq
    simp only [name, field?_focus_self (f := fun _ => .scalar o x) _ hoption,
      field?_focus_self (f := fun _ => .scalar o x) _ htext, map_ok, Option.join_some,
      Except.ok.injEq, Option.some.injEq] at hs hf hd hg hl
    refine ⟨nofun, ?_⟩
    simp [texts, ← hs, ← hf, ← hd, ← hg, ← hl]
  | indices =>
    obtain ⟨w, hw, hq⟩ := (field?_eq_some_iff _ (isTable_focus ..)).1 hq
    obtain rfl : _ = w := by simpa [part] using hw
    obtain ⟨-, hnames, -⟩ := decodeQuery_eq_ok_iff.1 hq
    obtain ⟨w, hw, hnames⟩ := (field?_eq_some_iff _ (isTable_focus ..)).1 hnames
    obtain rfl : .scalar o x = w := by simpa [name] using hw
    obtain ⟨hstr, hone⟩ :=
      (decodeIndices_scalar_eq_ok_iff fun name hname => hi name hname rfl).1 hnames
    exact ⟨fun _ => hstr, hone⟩
  | json | csv | html | delimiter =>
    obtain ⟨w, hw, ho⟩ := (field?_eq_some_iff _ (isTable_focus ..)).1 ho
    obtain rfl : _ = w := by simpa [part] using hw
    obtain ⟨-, hj, hc, hh, hd⟩ := decodeOutput_eq_ok_iff.1 ho
    simp only [name, field?_focus_self (f := fun _ => .scalar o x) _ htext, Except.ok.injEq,
      Option.some.injEq] at hj hc hh hd
    refine ⟨nofun, ?_⟩
    simp [texts, ← hj, ← hc, ← hh, ← hd]

/-! ### Requests -/

variable {r r' : Request} {env env' : Environment} {files : FileTree} {formats : Formats}

lemma resolve_eq_ok_iff :
    resolve r env files formats = .ok s ↔
      ∃ c, r.configuration env files formats = .ok c ∧ decode c = .ok s := by
  rw [resolve]
  cases r.configuration env files formats with
  | error e => simp
  | ok c => simp [mapError_eq_ok_iff]

/-- The part of the setting is given as a table. -/
def HasPart (t : TextSetting) (r : Request) (env : Environment) (files : FileTree)
    (formats : Formats) : Prop :=
  ∀ c, r.configuration env files formats = .ok c → (c.get? t.part).any isTable = true

/-- One more scalar at the key of the setting: if there are settings they say it, and if there were
settings before there are now, with nothing else changed. -/
lemma resolve_of_assign (hx : x ≠ .nil) (hi : ∀ name, x = .str name → t.IsValid name)
    (hr : r'.sources.resolve env' files formats = (r.sources.resolve env files formats).map
      (KeyPath.assignSteps (.scalar o x) · t.path.steps)) :
    (∀ s, resolve r' env' files formats = .ok s → t.Accepts x ∧ t.texts s = [x.text]) ∧
      (t.Accepts x → t.HasPart r env files formats → ∀ s, resolve r env files formats = .ok s →
        resolve r' env' files formats = .ok (t.set x.text s)) := by
  rw [← configuration_eq_resolve, ← configuration_eq_resolve] at hr
  constructor
  · intro s hs
    obtain ⟨c', hc', hs⟩ := resolve_eq_ok_iff.1 hs
    rw [hr] at hc'
    obtain ⟨c, -, rfl⟩ := map_eq_ok_iff.1 hc'
    exact texts_of_decode_assign hx hi hs
  · intro ha hp s hs
    obtain ⟨c, hc, hs⟩ := resolve_eq_ok_iff.1 hs
    have ht : c.isTable = true := isTable_of_configuration hc
    obtain ⟨w, hw, hwt⟩ := (Option.any_eq_true _ _).1 (hp c hc)
    refine resolve_eq_ok_iff.2 ⟨KeyPath.assignSteps (.scalar o x) c t.path.steps, ?_,
      decode_assign hx hi ha hs ht hw hwt⟩
    rw [hr, hc, map_ok]

/-! ### Keys and variables -/

lemma read?_key (t : TextSetting) : KeyPath.read? t.key = some t.path := by
  cases t <;> decide +kernel

/-- The override of the setting. -/
def override (t : TextSetting) (v : String) : String :=
  t.key ++ "=" ++ v

lemma read_override (t : TextSetting) (v : String) :
    Assignment.read (t.override v) = .ok ⟨t.path, Scalar.ofText v⟩ := by
  have hkey : '=' ∉ t.key.toList := by cases t <;> decide +kernel
  have hsplit : Text.splitFirst '=' (t.override v).toList = some (t.key.toList, v.toList) := by
    rw [override, String.toList_append, String.toList_append, List.append_assoc]
    exact Text.splitFirst_append hkey v.toList
  simp only [Assignment.read, hsplit, String.ofList_toList, read?_key]

/-- A variable is one of the setting whatever the case of its letters. -/
def IsVariable (t : TextSetting) (name : String) : Prop :=
  Text.toLower name = t.variableName

lemma readVariable?_of_isVariable {name : String} (h : t.IsVariable name) (v : String) :
    readVariable? namePrefix (name, v) =
      some (t.key, .scalar (some environmentOrigin) (.str v)) := by
  have hkey : (Text.toLower (namePrefix ++ "_")).toList.isPrefixOf t.variableName.toList = true ∧
      dotted (t.variableName.toList.drop (Text.toLower (namePrefix ++ "_")).toList.length) =
        t.key := by
    cases t <;> decide +kernel
  rw [readVariable?]
  dsimp only
  rw [h, if_pos hkey.1, hkey.2]

lemma ne_runModeVariable {name : String} (h : t.IsVariable name) : name ≠ runModeVariable := by
  have hne : Text.toLower runModeVariable ≠ t.variableName := by cases t <;> decide +kernel
  rintro rfl
  exact hne h

/-- With an override of its own the setting says the text of the scalar that is read from it. -/
lemma resolve_of_override {v : String} (hv : t.IsValid v) (before after : List String)
    (hb : LeadThere before t.path) (ha : LeadElsewhere after t.path) (r : Request)
    (env : Environment) (files : FileTree) (formats : Formats) :
    let x := Scalar.ofText v
    let given := resolve { r with overrides := before ++ t.override v :: after } env files formats
    let rest : Request := { r with overrides := before ++ after }
    (∀ s, given = .ok s → t.Accepts x ∧ t.texts s = [x.text]) ∧
      (t.Accepts x → t.HasPart rest env files formats →
        ∀ s, resolve rest env files formats = .ok s → given = .ok (t.set x.text s)) := by
  have hp : t.path.steps = KeyPath.keys [t.part, t.name] := rfl
  refine resolve_of_assign (o := none) (Scalar.ofText_ne_nil v) ?_ ?_
  · intro name hname
    rw [Scalar.eq_of_ofText_eq_str hname]
    exact hv
  · exact Sources.resolve_override (s := r.sources) hp (read_override t v) hb ha env files formats

/-- With a variable of its own and no override the setting says the text that is given. -/
lemma resolve_of_variable {v name : String} (hv : t.IsValid v) (hname : t.IsVariable name)
    {before after : Environment} (hb : VariablesLeadThere before namePrefix t.key t.path)
    (ha : VariablesLeadElsewhere after namePrefix t.path) {r : Request}
    (ho : LeadElsewhere r.overrides t.path) (files : FileTree) (formats : Formats) :
    let given := resolve r (before ++ (name, v) :: after) files formats
    let rest := before ++ after
    (∀ s, given = .ok s → t.texts s = [v]) ∧
      (t.HasPart r rest files formats → ∀ s, resolve r rest files formats = .ok s →
        given = .ok (t.set v s)) := by
  have hp : t.path.steps = KeyPath.keys [t.part, t.name] := rfl
  have hr := Sources.resolve_variable (s := r.sources) hp (readVariable?_of_isVariable hname v)
    (read?_key t) (ne_runModeVariable hname) hb ha ho files formats
  have hvalid : ∀ name, Scalar.str v = .str name → t.IsValid name := by
    intro name hn
    cases hn
    exact hv
  obtain ⟨htexts, hset⟩ := resolve_of_assign (x := .str v) nofun hvalid hr
  exact ⟨fun s hs => (htexts s hs).2, fun hpart => hset (fun _ => rfl) hpart⟩

/-! ### A sample -/

/-- Two folders with a default file each. -/
def sampleFiles : FileTree where
  entries :=
    [(["config"], .folder), (["config", "esexport"], .folder),
      (["config", "elasticsearch"], .folder),
      (["config", "elasticsearch", "default.toml"],
        .file (Text.utf8 "[elasticsearch]\nurl=\"http://a\"\ntimeout=1".toList)),
      (["config", "esexport", "default.toml"],
        .file (Text.utf8 (("[query]\nindices=\"a\"\npage_size=1\nscroll=\"1m\"\nfield=\"t\"\n" ++
          "format=\"date\"\n" ++
          "[output]\njson=\"j\"\ncsv=\"c\"\nhtml=\"h\"\ndelimiter=\",\"").toList)))]
  workingFolder := []

def sampleRequest (overrides : List String) : Request :=
  ⟨"config", none, overrides⟩

/-- The configuration of the two files. -/
def sampleConfiguration : Value :=
  let text (folder name s : String) : String × Value :=
    (name, .scalar (some ("config/" ++ folder ++ "/default.toml")) (.str s))
  let one (folder name : String) : String × Value :=
    (name, .scalar (some ("config/" ++ folder ++ "/default.toml")) (.int 1))
  .table none
    [("elasticsearch",
      .table none [one "elasticsearch" "timeout", text "elasticsearch" "url" "http://a"]),
    ("output", .table none
      [text "esexport" "csv" "c", text "esexport" "delimiter" ",", text "esexport" "html" "h",
        text "esexport" "json" "j"]),
    ("query", .table none
      [text "esexport" "field" "t", text "esexport" "format" "date", text "esexport" "indices" "a",
        one "esexport" "page_size", text "esexport" "scroll" "1m"])]

/-- What the two files say. -/
def sample : Settings where
  mode := none
  logPath := none
  endpoint :=
    { url :=
        { scheme := "http"
          authority := some ⟨"", none, .domain "a", none⟩
          path := .segments [""]
          query := none
          fragment := none }
      timeout := 1
      username := none
      password := none }
  query := ⟨["a"], 1, "1m", "t", "date", none, none⟩
  output := ⟨"j", "c", "h", ","⟩
  onSearchError := .discard

lemma configuration_sample :
    (sampleRequest []).configuration [] sampleFiles .basic = .ok sampleConfiguration := by
  decide +kernel

lemma resolve_sample : resolve (sampleRequest []) [] sampleFiles .basic = .ok sample :=
  resolve_eq_ok_iff.2 ⟨sampleConfiguration, configuration_sample, by decide +kernel⟩

lemma hasPart_sample (t : TextSetting) : t.HasPart (sampleRequest []) [] sampleFiles .basic := by
  intro c hc
  obtain rfl := Except.ok.inj (configuration_sample.symm.trans hc)
  cases t <;> decide +kernel

/-! ### Overrides and variables -/

/-- An override of a setting that is a text makes it the text of the scalar that is read from the
override, which is the one that was given unless it is a number in another than its normal
spelling. A variable makes it the given text itself. -/
theorem resolve_textSetting (t : TextSetting) {v : String} (hv : t.IsValid v) (r : Request)
    (env : Environment) (files : FileTree) (formats : Formats) :
    (∀ before after, LeadThere before t.path → LeadElsewhere after t.path →
      let x := Scalar.ofText v
      let given := resolve { r with overrides := before ++ t.override v :: after } env files formats
      let rest : Request := { r with overrides := before ++ after }
      (∀ s, given = .ok s → t.Accepts x ∧ t.texts s = [x.text]) ∧
        (t.Accepts x → t.HasPart rest env files formats →
          ∀ s, resolve rest env files formats = .ok s → given = .ok (t.set x.text s))) ∧
    ((Scalar.ofText v).text = v ↔
      (∀ i, Number.signed? v.toList = some i → Number.intText i = v) ∧
        (Number.signed? v.toList = none →
          ∀ x, FloatText.read? v = some x → x.plainText = v)) ∧
    ∀ name before after, t.IsVariable name →
      VariablesLeadThere before namePrefix t.key t.path →
      VariablesLeadElsewhere after namePrefix t.path → LeadElsewhere r.overrides t.path →
      let given := resolve r (before ++ (name, v) :: after) files formats
      let rest := before ++ after
      (∀ s, given = .ok s → t.texts s = [v]) ∧
        (t.HasPart r rest files formats → ∀ s, resolve r rest files formats = .ok s →
          given = .ok (t.set v s)) := by
  refine ⟨?_, Scalar.text_ofText_eq_self_iff v, ?_⟩
  · intro before after hb ha
    exact resolve_of_override hv before after hb ha r env files formats
  · intro name before after hname hb ha ho
    exact resolve_of_variable hv hname hb ha ho files formats

/-- The name of an index, as an override among others and as a variable. -/
theorem resolve_textSetting_of_index :
    indices.IsValid "b" ∧ indices.Accepts (Scalar.ofText "b") ∧
      (∀ s, resolve (sampleRequest
          [scroll.override "2m", indices.override "b", gte.override "1"]) [] sampleFiles .basic =
        .ok s → s.query.indices = ["b"]) ∧
      resolve (sampleRequest [indices.override "b"]) [] sampleFiles .basic =
        .ok (indices.set "b" sample) ∧
      resolve (sampleRequest []) [("Esexport_Query_Indices", "b")] sampleFiles .basic =
        .ok (indices.set "b" sample) := by
  have hv : indices.IsValid "b" := fun _ => ⟨by decide, by decide, by decide +kernel⟩
  have ha : indices.Accepts (Scalar.ofText "b") := fun _ => by decide +kernel
  obtain ⟨hoverride, -, hvariable⟩ :=
    resolve_textSetting indices hv (sampleRequest []) [] sampleFiles .basic
  refine ⟨hv, ha, ?_, ?_, ?_⟩
  · refine fun s hs => ((hoverride [scroll.override "2m"] [gte.override "1"] ?_ ?_).1 s hs).2
    · intro text htext a hread
      obtain rfl := List.mem_singleton.1 htext
      obtain rfl := Except.ok.inj ((read_override scroll "2m").symm.trans hread)
      exact .inr (.there (.here (by decide)))
    · intro text htext a hread
      obtain rfl := List.mem_singleton.1 htext
      obtain rfl := Except.ok.inj ((read_override gte "1").symm.trans hread)
      exact .there (.here (by decide))
  · exact (hoverride [] [] nofun nofun).2 ha (hasPart_sample indices) sample resolve_sample
  · have hname : indices.IsVariable "Esexport_Query_Indices" := by
      rw [IsVariable]
      decide +kernel
    exact (hvariable "Esexport_Query_Indices" [] [] hname nofun nofun nofun).2
      (hasPart_sample indices) sample resolve_sample

/-- A password that reads as a number loses its zeros, and such a name of an index is refused. -/
theorem resolve_of_zeros :
    password.IsValid "007" ∧ indices.IsValid "7" ∧
      resolve (sampleRequest [password.override "007"]) [] sampleFiles .basic =
        .ok (password.set "7" sample) ∧
      password.texts (password.set "7" sample) ≠ ["007"] ∧
      ∀ s, resolve (sampleRequest [indices.override "7"]) [] sampleFiles .basic ≠ .ok s := by
  have hv : indices.IsValid "7" := fun _ => ⟨by decide, by decide, by decide +kernel⟩
  have htext : (Scalar.ofText "007").text = "7" := by decide +kernel
  refine ⟨nofun, hv, ?_, by decide, ?_⟩
  · obtain ⟨-, hset⟩ := resolve_of_override (t := password) (v := "007") nofun [] [] nofun nofun
      (sampleRequest []) [] sampleFiles .basic
    rw [← htext]
    exact hset nofun (hasPart_sample password) sample resolve_sample
  · intro s hs
    obtain ⟨htexts, -⟩ := resolve_of_override hv [] [] nofun nofun (sampleRequest []) []
      sampleFiles .basic
    exact absurd ((htexts s hs).1 rfl) (by decide +kernel)

end TextSetting

end Settings

end ScrollExport
