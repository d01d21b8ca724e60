import ScrollExport.Proofs.Json.Rendering
import ScrollExport.Proofs.Output.Delimited

/-!
# Reading listings

A listing is read back from its bytes, and its layout makes no difference: there is one object for
each row, made of the identifier and then the fields, in their order.
-/

namespace ScrollExport.Listing

open Delimited (text?)
open Json (Layout Tree)

/-! ### Bytes and texts -/

lemma text?_utf8 (cs : List Char) : text? (Text.utf8 cs) = some (String.ofList cs) := by
  have h := Delimited.text?_fieldBytes (String.ofList cs)
  rwa [Delimited.fieldBytes, String.toList_ofList] at h

def layout (indented : Bool) : Layout :=
  if indented then .indented 0 else .compact

lemma serialize_json (t : Table) (indented : Bool) :
    Format.serialize t (.json indented) = Text.utf8 ((ofTable t).render (layout indented)) := by
  cases indented <;> rfl

/-! ### Values -/

/-- The value of a text, however deep it is nested. -/
def read? (bytes : List UInt8) : Option Json :=
  (text? bytes).bind Json.readDeep?

/-- What the object of a record holds: the identifier, and the fields put after it in their
order. -/
def members (r : Record) : List (String × Json) :=
  r.fields.foldl (fun ms f => Keyed.put ms f.1 f.2) [(Table.idHeading, .str r.id)]

/-- A field with the name of the identifier takes its place. Any other name has the value that it
has in the record, if it has one there. -/
lemma get?_members (r : Record) (key : String) :
    Keyed.get? (members r) key =
      (r.field? key).or (if key = Table.idHeading then some (.str r.id) else none) :=
  Keyed.get?_foldl_put r.distinct _ key

lemma members_of_notMem {r : Record} (hk : Table.idHeading ∉ r.keys) :
    members r = (Table.idHeading, .str r.id) :: r.fields :=
  Keyed.foldl_put_of_nodup _ _ (List.nodup_cons.2 ⟨hk, r.distinct⟩)

lemma ofTree?_ofRecord {r : Record} (hn : ∀ f ∈ r.fields, f.2.HasWordNumbers)
    (hd : ∀ f ∈ r.fields, f.2.HasDistinctKeys) :
    Json.ofTree? none (Tree.ofJson (ofRecord r)) = some (.obj (members r)) := by
  have hm : ∀ m ∈ (Table.idHeading, Json.str r.id) :: r.fields,
      Json.ofTree? none (Tree.ofJson m.2) = some m.2 := by
    refine List.forall_mem_cons.2 ⟨?_, fun f hf => Json.ofTree?_ofJson (hn f hf) (hd f hf)⟩
    exact Json.ofTree?_ofJson .str .str
  rw [ofRecord, Tree.ofJson, Json.ofTree?, Json.deeper?, Option.bind_some,
    Json.ofMembers?_map hm]
  rfl

lemma ofTree?_ofTable {t : Table} (hn : ∀ r ∈ t.rows, ∀ f ∈ r.fields, f.2.HasWordNumbers)
    (hd : ∀ r ∈ t.rows, ∀ f ∈ r.fields, f.2.HasDistinctKeys) :
    Json.ofTree? none (Tree.ofJson (ofTable t)) =
      some (.arr (t.rows.map fun r => .obj (members r))) := by
  have hi : Json.ofItems? none (t.rows.map (Tree.ofJson ∘ ofRecord)) =
      some (t.rows.map fun r => .obj (members r)) :=
    Json.ofItems?_map fun r hr => ofTree?_ofRecord (hn r hr) (hd r hr)
  rw [ofTable, Tree.ofJson, List.map_map, Json.ofTree?, Json.deeper?, Option.bind_some, hi]
  rfl

/-- A listing is read back row by row, and alike from both layouts: as the objects that hold the
identifier and then the fields. A field that is absent does not appear, and one that is null does.
Unless a field has the name of the identifier, the objects are the identifiers and the fields
themselves, in their order. -/
theorem read?_serialize {t : Table} (hn : ∀ r ∈ t.rows, ∀ f ∈ r.fields, f.2.HasWordNumbers)
    (hd : ∀ r ∈ t.rows, ∀ f ∈ r.fields, f.2.HasDistinctKeys) :
    (∀ indented, read? (Format.serialize t (.json indented)) =
      some (.arr (t.rows.map fun r => .obj (members r)))) ∧
    (∀ r ∈ t.rows, ∀ key ≠ Table.idHeading, Keyed.get? (members r) key = r.field? key) ∧
    ∀ r ∈ t.rows, Table.idHeading ∉ r.keys →
      members r = (Table.idHeading, .str r.id) :: r.fields := by
  refine ⟨fun indented => ?_, fun r _ key hk => ?_, fun r _ hk => members_of_notMem hk⟩
  · rw [read?, serialize_json, text?_utf8, Option.bind_some, Json.readDeep?, String.toList_ofList,
      Tree.ofChars?_render, Option.bind_some, ofTree?_ofTable hn hd]
  · rw [get?_members, if_neg hk, Option.or_none]

/-- A field of the second record has the name of the identifier. -/
theorem read?_serialize_of_two :
    let nested : Json := .obj [("\n", .arr [.int (-9223372036854775808), .arr []])]
    let r₁ : Record := ⟨"é\"", [("none", .null), ("k", nested)], by decide⟩
    let r₂ : Record := ⟨"b", [("x", .bool true), ("_id", .int 18446744073709551615)], by decide⟩
    let t := Table.empty.extend [r₁, r₂]
    (∀ r ∈ t.rows, ∀ f ∈ r.fields, f.2.HasWordNumbers) ∧
    (∀ r ∈ t.rows, ∀ f ∈ r.fields, f.2.HasDistinctKeys) ∧
    read? (Format.serialize t (.json true)) = some (.arr
      [.obj [("_id", .str "é\""), ("none", .null), ("k", nested)],
        .obj [("_id", .int 18446744073709551615), ("x", .bool true)]]) := by
  intro nested r₁ r₂ t
  have hn : ∀ r ∈ [r₁, r₂], ∀ f ∈ r.fields, f.2.HasWordNumbers := by
    simp only [List.forall_mem_cons, r₁, r₂, nested]
    exact ⟨⟨.null, .obj (by simpa using .arr (by simpa using ⟨.int (by decide), .arr nofun⟩)),
      nofun⟩, ⟨.bool, .int (by decide), nofun⟩, nofun⟩
  have hd : ∀ r ∈ [r₁, r₂], ∀ f ∈ r.fields, f.2.HasDistinctKeys := by
    simp only [List.forall_mem_cons, r₁, r₂, nested]
    exact ⟨⟨.null, .obj (by decide) (by simpa using .arr (by simpa using ⟨.int, .arr nofun⟩)),
      nofun⟩, ⟨.bool, .int, nofun⟩, nofun⟩
  exact ⟨hn, hd, (read?_serialize (t := t) hn hd).1 true⟩

end ScrollExport.Listing
