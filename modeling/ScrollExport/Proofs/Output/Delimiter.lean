import Mathlib.Data.List.Basic
import ScrollExport.Proofs.Output.Delimited
import ScrollExport.Proofs.Url.Percent
import ScrollExport.Settings

/-!
# Delimiters

What is written with a delimiter can be taken apart again in one way only, unless the delimiter is a
quote or ends lines. Fields are told apart from what follows them (`Spells.append_inj`), then
records, then whole tables. Settings refuse neither of these two delimiters
(`Settings.isUnambiguous_csv_iff`).
-/

namespace ScrollExport

namespace Delimited

/-! ### Spellings of fields -/

/-- The ways to write a field: bare if it has no special byte, or between quotes. -/
def Spells (delimiter : UInt8) (field written : List UInt8) : Prop :=
  (∀ b ∈ field, isSpecial delimiter b = false) ∧ written = field ∨
    written = quote :: doubleQuotes field ++ [quote]

/-- What can follow a field. -/
def IsSeparator (delimiter b : UInt8) : Prop :=
  b = delimiter ∨ b = lineFeed

variable {delimiter : UInt8} {field field' written written' : List UInt8}

lemma spells_encodeField (delimiter : UInt8) (field : List UInt8) :
    Spells delimiter field (encodeField delimiter field) := by
  unfold encodeField
  split_ifs with h
  · exact .inr rfl
  · exact .inl ⟨by simpa using h, rfl⟩

lemma spells_nil (delimiter : UInt8) : Spells delimiter [] [quote, quote] :=
  .inr rfl

namespace IsSeparator

variable {x : UInt8}

lemma isSpecial_eq_true (hx : IsSeparator delimiter x) : isSpecial delimiter x = true := by
  rcases hx with rfl | rfl <;> simp [isSpecial]

lemma ne_quote (hd : delimiter ≠ quote) (hx : IsSeparator delimiter x) : x ≠ quote := by
  rcases hx with rfl | rfl
  · exact hd
  · decide

end IsSeparator

variable {x y : UInt8} {rest rest' : List UInt8}

/-- A bare field goes up to the first special byte. -/
lemma takeWhile_bare (hf : ∀ b ∈ field, isSpecial delimiter b = false)
    (hx : isSpecial delimiter x = true) :
    (field ++ x :: rest).takeWhile (!isSpecial delimiter ·) = field := by
  rw [List.takeWhile_append_of_pos (by simpa using hf), List.takeWhile_cons_of_neg (by simp [hx]),
    List.append_nil]

/-- A quoted field goes up to the first quote that is not doubled. -/
lemma doubleQuotes_append_inj (hx : x ≠ quote) (hy : y ≠ quote)
    (h : doubleQuotes field ++ quote :: x :: rest = doubleQuotes field' ++ quote :: y :: rest') :
    field = field' ∧ x :: rest = y :: rest' := by
  induction field generalizing field' with
  | nil =>
    cases field' with
    | nil => exact ⟨rfl, List.tail_eq_of_cons_eq h⟩
    | cons b field' =>
      by_cases hb : b = quote
      · simp [doubleQuotes, hb, hx] at h
      · simp [doubleQuotes, hb, Ne.symm hb] at h
  | cons a field ih =>
    cases field' with
    | nil =>
      by_cases ha : a = quote
      · simp [doubleQuotes, ha, hy.symm] at h
      · simp [doubleQuotes, ha] at h
    | cons b field' =>
      have hcons : ∀ c cs, doubleQuotes (c :: cs) =
          (if c = quote then [quote, quote] else [c]) ++ doubleQuotes cs := fun _ _ => rfl
      rw [hcons, hcons] at h
      by_cases ha : a = quote <;> by_cases hb : b = quote
      · obtain ⟨rfl, hr⟩ := ih (by simpa [ha, hb] using h)
        exact ⟨by rw [ha, hb], hr⟩
      · simp [ha, hb, Ne.symm hb] at h
      · simp [ha, hb] at h
      · obtain ⟨hab, h⟩ : a = b ∧ _ := by simpa [ha, hb] using h
        obtain ⟨rfl, hr⟩ := ih h
        exact ⟨by rw [hab], hr⟩

lemma ne_of_bare_of_quoted (hd : delimiter ≠ quote)
    (hf : ∀ b ∈ field, isSpecial delimiter b = false) (hx : IsSeparator delimiter x) :
    field ++ x :: rest ≠ quote :: rest' := by
  intro h
  cases field with
  | nil => exact hx.ne_quote hd (List.head_eq_of_cons_eq h)
  | cons b field =>
    obtain rfl := List.head_eq_of_cons_eq h
    simpa [isSpecial] using hf quote (List.mem_cons_self ..)

/-- However a field is spelled, it is known from the text that starts with it. -/
lemma Spells.append_inj (hd : delimiter ≠ quote) (hw : Spells delimiter field written)
    (hw' : Spells delimiter field' written') (hx : IsSeparator delimiter x)
    (hy : IsSeparator delimiter y) (h : written ++ x :: rest = written' ++ y :: rest') :
    field = field' ∧ x :: rest = y :: rest' := by
  rcases hw with ⟨hf, rfl⟩ | rfl <;> rcases hw' with ⟨hf', rfl⟩ | rfl
  · have hfield : written = written' := by
      rw [← takeWhile_bare hf hx.isSpecial_eq_true, h, takeWhile_bare hf' hy.isSpecial_eq_true]
    subst hfield
    exact ⟨rfl, List.append_cancel_left h⟩
  · exact absurd (by simpa using h) (ne_of_bare_of_quoted hd hf hx)
  · exact absurd (by simpa using h.symm) (ne_of_bare_of_quoted hd hf' hy)
  · exact doubleQuotes_append_inj (hx.ne_quote hd) (hy.ne_quote hd) (by simpa using h)

/-! ### Records -/

/-- A record after its first field. -/
def encodeTail (delimiter : UInt8) (fields : List (List UInt8)) : List UInt8 :=
  fields.flatMap (fun field => delimiter :: encodeField delimiter field) ++ [lineFeed]

variable {fields fields' : List (List UInt8)}

lemma exists_separator (delimiter : UInt8) (fields : List (List UInt8)) (rest : List UInt8) :
    ∃ x rest', IsSeparator delimiter x ∧ encodeTail delimiter fields ++ rest = x :: rest' := by
  cases fields with
  | nil => exact ⟨lineFeed, rest, .inr rfl, rfl⟩
  | cons field fields => exact ⟨delimiter, _, .inl rfl, rfl⟩

lemma Spells.append_tail_inj (hd : delimiter ≠ quote) (hw : Spells delimiter field written)
    (hw' : Spells delimiter field' written')
    (h : written ++ (encodeTail delimiter fields ++ rest) =
      written' ++ (encodeTail delimiter fields' ++ rest')) :
    field = field' ∧
      encodeTail delimiter fields ++ rest = encodeTail delimiter fields' ++ rest' := by
  obtain ⟨x, _, hx, hr⟩ := exists_separator delimiter fields rest
  obtain ⟨y, _, hy, hr'⟩ := exists_separator delimiter fields' rest'
  rw [hr, hr'] at h ⊢
  exact hw.append_inj hd hw' hx hy h

lemma encodeTail_append_inj (hd : delimiter ≠ quote) (hl : delimiter ≠ lineFeed)
    (h : encodeTail delimiter fields ++ rest = encodeTail delimiter fields' ++ rest') :
    fields = fields' ∧ rest = rest' := by
  have hcons : ∀ f fs r, encodeTail delimiter (f :: fs) ++ r =
      delimiter :: (encodeField delimiter f ++ (encodeTail delimiter fs ++ r)) := by
    intro f fs r
    simp [encodeTail]
  induction fields generalizing fields' with
  | nil =>
    cases fields' with
    | nil => exact ⟨rfl, List.tail_eq_of_cons_eq h⟩
    | cons field' fields' =>
      rw [hcons] at h
      exact absurd (List.head_eq_of_cons_eq h).symm hl
  | cons field fields ih =>
    cases fields' with
    | nil =>
      rw [hcons] at h
      exact absurd (List.head_eq_of_cons_eq h) hl
    | cons field' fields' =>
      rw [hcons, hcons] at h
      obtain ⟨rfl, ht⟩ := (spells_encodeField delimiter field).append_tail_inj hd
        (spells_encodeField delimiter field') (List.tail_eq_of_cons_eq h)
      obtain ⟨rfl, hr⟩ := ih ht
      exact ⟨rfl, hr⟩

/-- The two quotes of a record of one empty field are another spelling of that field. -/
lemma encodeRecord_cons (delimiter : UInt8) (field : List UInt8) (fields : List (List UInt8)) :
    ∃ written, Spells delimiter field written ∧
      encodeRecord delimiter (field :: fields) = written ++ encodeTail delimiter fields := by
  have hline : [delimiter].intercalate ((field :: fields).map (encodeField delimiter)) =
      encodeField delimiter field ++
        fields.flatMap fun field => delimiter :: encodeField delimiter field := by
    rw [List.map_cons, Text.intercalate_cons, List.flatMap_map]
  simp only [encodeRecord, encodeTail]
  split_ifs with he
  · rw [hline, List.append_eq_nil_iff] at he
    obtain rfl := eq_nil_of_encodeField he.1
    exact ⟨_, spells_nil delimiter, by rw [he.2, List.nil_append]⟩
  · exact ⟨_, spells_encodeField delimiter field, by rw [hline, List.append_assoc]⟩

lemma encodeRecord_append_inj (hd : delimiter ≠ quote) (hl : delimiter ≠ lineFeed)
    (hf : fields ≠ []) (hf' : fields' ≠ [])
    (h : encodeRecord delimiter fields ++ rest = encodeRecord delimiter fields' ++ rest') :
    fields = fields' ∧ rest = rest' := by
  obtain ⟨field, fields, rfl⟩ := List.exists_cons_of_ne_nil hf
  obtain ⟨field', fields', rfl⟩ := List.exists_cons_of_ne_nil hf'
  obtain ⟨written, hw, he⟩ := encodeRecord_cons delimiter field fields
  obtain ⟨written', hw', he'⟩ := encodeRecord_cons delimiter field' fields'
  rw [he, he', List.append_assoc, List.append_assoc] at h
  obtain ⟨rfl, ht⟩ := hw.append_tail_inj hd hw' h
  obtain ⟨rfl, hr⟩ := encodeTail_append_inj hd hl ht
  exact ⟨rfl, hr⟩

/-- Records that have fields are known from their text. -/
theorem encodeRecords_inj (hd : delimiter ≠ quote) (hl : delimiter ≠ lineFeed)
    {records records' : List (List (List UInt8))} (hr : ∀ record ∈ records, record ≠ [])
    (hr' : ∀ record ∈ records', record ≠ [])
    (h : encodeRecords delimiter records = encodeRecords delimiter records') :
    records = records' := by
  have hne : ∀ record rest, encodeRecord delimiter record ++ rest ≠ [] := by
    intro record rest
    simp [encodeRecord]
  induction records generalizing records' with
  | nil =>
    cases records' with
    | nil => rfl
    | cons record' records' => exact absurd h.symm (hne record' _)
  | cons record records ih =>
    cases records' with
    | nil => exact absurd h (hne record _)
    | cons record' records' =>
      obtain ⟨hr, hrs⟩ := List.forall_mem_cons.1 hr
      obtain ⟨hr', hrs'⟩ := List.forall_mem_cons.1 hr'
      obtain ⟨rfl, ht⟩ := encodeRecord_append_inj hd hl hr hr' h
      rw [ih hrs hrs' ht]

/-! ### Tables -/

lemma fieldBytes_injective : Function.Injective fieldBytes := by
  intro s s' h
  exact String.toList_inj.1 (Text.utf8_injective h)

/-- Whether tables with other headers or other texts are written as other files. -/
def IsUnambiguous (delimiter : UInt8) : Prop :=
  ∀ t t' : Table, t.header ≠ t'.header ∨ t.textGrid ≠ t'.textGrid →
    Format.serialize t (.csv delimiter) ≠ Format.serialize t' (.csv delimiter)

lemma isUnambiguous_of_ne (hd : delimiter ≠ quote) (hl : delimiter ≠ lineFeed) :
    IsUnambiguous delimiter := by
  intro t t' hne h
  have hfields : ∀ t : Table, ∀ record ∈ (t.header :: t.textGrid).map (List.map fieldBytes),
      record ≠ [] := by
    intro t
    simp [Table.header, Table.textGrid, Table.rowTexts]
  have hbytes := encodeRecords_inj hd hl (hfields t) (hfields t') h
  have htexts := (List.map_injective_iff.2 (List.map_injective_iff.2 fieldBytes_injective)) hbytes
  obtain ⟨hh, hg⟩ := List.cons.inj htexts
  exact hne.elim (fun hn => hn hh) fun hn => hn hg

/-! ### Delimiters that settings accept -/

/-- Two quotes in a row are a field, or delimiters around an empty one. -/
lemma serialize_quote :
    let t := Table.empty.extend [⟨"", [("c", .str "\"")], by simp⟩]
    let t' := Table.empty.extend [⟨"\"", [("c", .str "")], by simp⟩]
    t.textGrid ≠ t'.textGrid ∧
      Format.serialize t (.csv quote) = Format.serialize t' (.csv quote) := by
  decide

/-- A line break ends a record, or a field. -/
lemma serialize_lineFeed :
    let t := Table.empty.extend [⟨"a", [("c", .str "x")], by simp⟩]
    let t' := Table.empty.extend
      [⟨"c", [], by simp⟩, ⟨"a", [], by simp⟩, ⟨"x", [], by simp⟩]
    t.textGrid ≠ t'.textGrid ∧
      Format.serialize t (.csv lineFeed) = Format.serialize t' (.csv lineFeed) := by
  decide

lemma isUnambiguous_iff {delimiter : UInt8} :
    IsUnambiguous delimiter ↔ delimiter ≠ quote ∧ delimiter ≠ lineFeed := by
  constructor
  · intro hu
    constructor
    · rintro rfl
      exact hu _ _ (.inr serialize_quote.1) serialize_quote.2
    · rintro rfl
      exact hu _ _ (.inr serialize_lineFeed.1) serialize_lineFeed.2
  · rintro ⟨hd, hl⟩
    exact isUnambiguous_of_ne hd hl

end Delimited

namespace Settings

open Delimited (IsUnambiguous)

lemma byteOf_inj {c d : Char} (hc : c.toNat < 0x80) (hd : d.toNat < 0x80) :
    Text.byteOf c = Text.byteOf d ↔ c = d := by
  constructor
  · intro h
    have hn := congrArg UInt8.toNat h
    simp only [Text.byteOf, Nat.toUInt8, UInt8.toNat_ofNat'] at hn
    exact Char.toNat_inj.1 (by omega)
  · rintro rfl
    rfl

/-- Settings are accepted with any delimiter of one ASCII character. Different tables then have
different files, but not if the delimiter is a quote or a line feed: these two are accepted as well,
and there are records that are written as other ones are. -/
theorem isUnambiguous_csv_iff {s : Settings} {plan : ExportPlan} (hp : s.plan = .ok plan) :
    ∃ delimiter, s.delimiter = .ok delimiter ∧
      plan.targets = s.outputPaths.targets delimiter ∧
      (IsUnambiguous delimiter ↔ s.output.delimiter ≠ "\"" ∧ s.output.delimiter ≠ "\n") ∧
      (¬ IsUnambiguous delimiter → ∃ records records' : List Record,
        let t := Table.empty.extend records
        let t' := Table.empty.extend records'
        t.textGrid ≠ t'.textGrid ∧
          Format.serialize t (.csv delimiter) = Format.serialize t' (.csv delimiter)) := by
  obtain ⟨query, delimiter, -, hd, rfl⟩ := plan_eq_ok_iff.1 hp
  obtain ⟨c, hc, hl, rfl⟩ := delimiter_eq_ok_iff.1 hd
  have htext : ∀ d : Char, d.toNat < 0x80 →
      (Text.byteOf c ≠ Text.byteOf d ↔ s.output.delimiter ≠ String.ofList [d]) := by
    intro d hd
    rw [not_iff_not, byteOf_inj hl hd, ← String.toList_inj, hc, String.toList_ofList]
    simp
  refine ⟨_, hd, rfl, ?_, ?_⟩
  · rw [Delimited.isUnambiguous_iff]
    exact and_congr (htext '"' (by decide)) (htext '\n' (by decide))
  · intro hn
    rw [Delimited.isUnambiguous_iff, not_and_or, not_not, not_not] at hn
    rcases hn with hq | hl
    · exact hq ▸ ⟨_, _, Delimited.serialize_quote⟩
    · exact hl ▸ ⟨_, _, Delimited.serialize_lineFeed⟩

/-- A quote is accepted. -/
theorem isUnambiguous_csv_iff_of_quote :
    let range : TimeRange := ⟨"t", "date", none, none⟩
    let query : Query := ⟨["logs"], 10, "1m", range, by decide, by decide, by decide⟩
    let plan : ExportPlan := ⟨query, OutputPaths.standard.targets Delimited.quote, .discard⟩
    let s : Settings :=
      { mode := none
        logPath := none
        endpoint := .standard
        query := ⟨["logs"], 10, "1m", "t", "date", none, none⟩
        output := ⟨"object.json", "object.csv", "objectrocket.html", "\""⟩
        onSearchError := .discard }
    s.plan = .ok plan ∧ ∃ delimiter, s.delimiter = .ok delimiter ∧
      ∃ records records' : List Record,
        let t := Table.empty.extend records
        let t' := Table.empty.extend records'
        t.textGrid ≠ t'.textGrid ∧
          Format.serialize t (.csv delimiter) = Format.serialize t' (.csv delimiter) := by
  intro range query plan s
  have hq : s.toQuery = .ok query := by
    simp only [s, query, range]
    rfl
  have hd : s.delimiter = .ok Delimited.quote :=
    delimiter_eq_ok_iff.2 ⟨'"', by decide, by decide, rfl⟩
  have hp : s.plan = .ok plan := plan_eq_ok_iff.2 ⟨query, Delimited.quote, hq, hd, rfl⟩
  obtain ⟨delimiter, hd, -, hu, hn⟩ := isUnambiguous_csv_iff hp
  exact ⟨hp, delimiter, hd, hn fun h => (hu.1 h).1 rfl⟩

end Settings

end ScrollExport
