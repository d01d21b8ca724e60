import Mathlib.Data.Option.Basic
import ScrollExport.Proofs.Output.Markup
import ScrollExport.Proofs.Table.Columns

/-!
# Identifiers in written tables

The identifier of a record shares its name with the fields. A field of that name hides it from a
reader of listings, and has a column of its own in the two other formats.
-/

namespace ScrollExport

open Json (Tree)

/-- The last value of a member, if the tree is an object that has it. -/
def Json.Tree.member? (name : String) : Tree → Option Tree
  | .obj members => Keyed.get? (Keyed.ofList members) (some name)
  | _ => none

namespace Listing

/-- The shape of a listing, whatever its numbers are. -/
def readTree? (bytes : List UInt8) : Option Tree :=
  (Delimited.text? bytes).bind fun s => Tree.ofChars? s.toList

/-- What a reader takes for the identifier: a field of that name, if there is one. -/
def identity (r : Record) : Json :=
  (r.field? Table.idHeading).getD (.str r.id)

lemma readTree?_serialize (t : Table) (indented : Bool) :
    readTree? (Format.serialize t (.json indented)) =
      some (.arr (t.rows.map (Tree.ofJson ∘ ofRecord))) := by
  rw [readTree?, serialize_json, text?_utf8, Option.bind_some, String.toList_ofList,
    Tree.ofChars?_render, ofTable, Tree.ofJson, List.map_map]

lemma get?_map_ofJson (members : List (String × Json)) (name : String) :
    Keyed.get? (members.map fun m => (some m.1, Tree.ofJson m.2)) (some name) =
      (Keyed.get? members name).map Tree.ofJson := by
  induction members with
  | nil => rfl
  | cons m members ih =>
    obtain ⟨key, v⟩ := m
    simp only [List.map_cons, Keyed.get?_cons, ih, Option.some_inj]
    split_ifs <;> rfl

/-- The fields follow the identifier, so they win. -/
lemma member?_ofRecord (r : Record) :
    (Tree.ofJson (ofRecord r)).member? Table.idHeading = some (Tree.ofJson (identity r)) := by
  have hd : ((r.fields.map fun f => (some f.1, Tree.ofJson f.2)).map Prod.fst).Nodup := by
    have hd := r.distinct.map (Option.some_injective String)
    rwa [List.map_map] at hd ⊢
  rw [ofRecord, Tree.ofJson, Tree.member?, List.map_cons, Keyed.ofList, List.foldl_cons,
    Keyed.get?_foldl_put hd, get?_map_ofJson, identity, Record.field?]
  cases Keyed.get? r.fields Table.idHeading with
  | none => simp [Tree.ofJson]
  | some v => rfl

lemma ofJson_eq_text_iff {v : Json} {s : String} :
    Tree.ofJson v = .text (some s) ↔ v = .str s := by
  cases v with
  | float x => cases x <;> simp [Tree.ofJson, Tree.ofFloat]
  | _ => simp [Tree.ofJson]

lemma identity_eq_str_iff {r : Record} :
    identity r = .str r.id ↔ ∀ v, r.field? Table.idHeading = some v → v = .str r.id := by
  unfold identity
  cases r.field? Table.idHeading <;> simp

end Listing

/-- How often the name of the identifier stands in the header of a table with these rows. -/
def Table.headings (records : List Record) : Nat :=
  1 + if ∃ r ∈ records, idHeading ∈ r.keys then 1 else 0

lemma Table.count_header (records : List Record) :
    (empty.extend records).header.count idHeading = headings records := by
  rw [header, List.count_cons_self, count_columns_extend_empty, headings, Nat.add_comm]

lemma Table.headings_eq_one_iff {records : List Record} :
    headings records = 1 ↔ ∀ r ∈ records, idHeading ∉ r.keys := by
  unfold headings
  split_ifs with h
  · simpa using h
  · simpa using h

/-- The objects of a listing tell the identifiers of the records, in their order, exactly if no
record has another value in a field with the name of the identifier; where a record has such a
field, its value is what they tell. In both other formats that name heads one column, and a second
one exactly if some record has a field of that name. -/
theorem Format.identities_serialize {delimiter : UInt8} (hd : Delimited.IsDelimiter delimiter)
    (records : List Record) (indented : Bool) (cls : String) :
    let t := Table.empty.extend records
    (∃ objects, Listing.readTree? (serialize t (.json indented)) = some (.arr objects) ∧
      objects.map (Tree.member? Table.idHeading) =
        records.map (fun r => some (Tree.ofJson (Listing.identity r))) ∧
      (objects.map (Tree.member? Table.idHeading) =
          records.map (fun r => some (Tree.text (some r.id))) ↔
        ∀ r ∈ records, ∀ v, r.field? Table.idHeading = some v → v = .str r.id)) ∧
    (∃ header rows, Delimited.readTexts delimiter (serialize t (.csv delimiter)) =
        some (header :: rows) ∧
      header.count Table.idHeading = Table.headings records) ∧
    (∃ items header rows, Markup.read? (serialize t (.html cls)) = some items ∧
      Markup.grid items = header :: rows ∧
      header.count Table.idHeading = Table.headings records) ∧
    (Table.headings records = 1 ↔ ∀ r ∈ records, Table.idHeading ∉ r.keys) := by
  intro t
  have hrows : t.rows = records := Table.rows_extend ..
  have hcount : t.header.count Table.idHeading = Table.headings records :=
    Table.count_header records
  refine ⟨⟨_, Listing.readTree?_serialize t indented, ?_⟩, ?_, ?_, Table.headings_eq_one_iff⟩
  · have hmap : (t.rows.map (Tree.ofJson ∘ Listing.ofRecord)).map (Tree.member? Table.idHeading) =
        records.map fun r => some (Tree.ofJson (Listing.identity r)) := by
      rw [hrows, List.map_map]
      exact List.map_congr_left fun r _ => Listing.member?_ofRecord r
    refine ⟨hmap, ?_⟩
    rw [hmap, List.map_inj_left]
    simp only [Option.some_inj, Listing.ofJson_eq_text_iff, Listing.identity_eq_str_iff]
  · have hne : ∀ texts ∈ t.header :: t.textGrid, texts ≠ [] := by
      simp [Table.header, Table.textGrid, Table.rowTexts]
    exact ⟨t.header, t.textGrid, Delimited.readTexts_encodeRecords hd hne, hcount⟩
  · obtain ⟨items, hi, -, hg⟩ := Markup.exists_read? cls t
    exact ⟨items, t.header, t.textGrid, hi, hg, hcount⟩

/-- The number five hides the identifier. -/
theorem Format.identities_serialize_of_five :
    let records := [Record.ofSource "a" (.obj [("_id", .int 5)])]
    let t := Table.empty.extend records
    Delimited.IsDelimiter 44 ∧
    (∃ objects, Listing.readTree? (serialize t (.json true)) = some (.arr objects) ∧
      objects.map (Tree.member? "_id") = [some (.number (.ofInt 5))]) ∧
    ∃ header rows, Delimited.readTexts 44 (serialize t (.csv 44)) = some (header :: rows) ∧
      header.count "_id" = 2 := by
  intro records t
  have hd : Delimited.IsDelimiter 44 := ⟨by decide, by decide, by decide⟩
  obtain ⟨⟨objects, hread, hmap, -⟩, hcsv, -⟩ := identities_serialize hd records true "dataframe"
  refine ⟨hd, ⟨objects, hread, ?_⟩, hcsv⟩
  have hfive : Tree.ofJson (.int 5) = .number (.ofInt 5) := by rw [Tree.ofJson]
  exact hmap.trans (congrArg (fun tree => [some tree]) hfive)

end ScrollExport
