import Mathlib.Data.List.Basic
import ScrollExport.Output.Format

/-!
# Reading delimited text

A reader of delimited text that is no more lenient than it must be, and what it finds in a table
that was written: the header and the rows, text by text, whatever the delimiter and the texts are.
-/

namespace ScrollExport.Delimited

/-! ### A reader -/

/-- Where a reader stands. -/
inductive Mode where
  /-- Before a record. -/
  | line
  /-- Before a field that follows a delimiter. -/
  | field
  | bare
  | quoted
  /-- After a quote in a quoted field: its end, or the first of two. -/
  | closed
  | refused
deriving DecidableEq, Repr

/-- What was read: whole records, whole fields of the next one, and a part of the next field. -/
structure Reading where
  records : List (List (List UInt8))
  fields : List (List UInt8)
  part : List UInt8
  mode : Mode
deriving DecidableEq, Repr

def isLineBreak (b : UInt8) : Bool :=
  b = carriageReturn || b = lineFeed

namespace Reading

def start : Reading :=
  ⟨[], [], [], .line⟩

def keep (r : Reading) (mode : Mode) (b : UInt8) : Reading :=
  { r with part := r.part ++ [b], mode }

def endField (r : Reading) : Reading :=
  ⟨r.records, r.fields ++ [r.part], [], .field⟩

def endRecord (r : Reading) : Reading :=
  ⟨r.records ++ [r.fields ++ [r.part]], [], [], .line⟩

/-- A delimiter ends the field, a line break the record. -/
def endOr (delimiter : UInt8) (r : Reading) (b : UInt8) (other : Reading) : Reading :=
  if b = delimiter then r.endField else if isLineBreak b then r.endRecord else other

/-- Read one byte. Blank lines are skipped, and so is the second half of a line break of two
bytes. Only a quoted field can hold quotes, and nothing follows its end but a delimiter or a line
break. -/
def step (delimiter : UInt8) (r : Reading) (b : UInt8) : Reading :=
  match r.mode with
  | .line =>
    if isLineBreak b then r
    else if b = quote then { r with mode := .quoted }
    else r.endOr delimiter b (r.keep .bare b)
  | .field =>
    if b = quote then { r with mode := .quoted } else r.endOr delimiter b (r.keep .bare b)
  | .bare =>
    if b = quote then { r with mode := .refused } else r.endOr delimiter b (r.keep .bare b)
  | .quoted => if b = quote then { r with mode := .closed } else r.keep .quoted b
  | .closed =>
    if b = quote then r.keep .quoted b else r.endOr delimiter b { r with mode := .refused }
  | .refused => r

/-- The records at the end of the text. The last one needs no line break. -/
def finish (r : Reading) : Option (List (List (List UInt8))) :=
  match r.mode with
  | .line => some r.records
  | .field | .bare | .closed => some r.endRecord.records
  | .quoted | .refused => none

end Reading

def readRecords (delimiter : UInt8) (bytes : List UInt8) : Option (List (List (List UInt8))) :=
  (bytes.foldl (Reading.step delimiter) .start).finish

def text? (bytes : List UInt8) : Option String :=
  String.fromUTF8? bytes.toByteArray

/-- The records of a text, if it is well formed and every field of it is. -/
def readTexts (delimiter : UInt8) (bytes : List UInt8) : Option (List (List String)) :=
  (readRecords delimiter bytes).bind fun records =>
    records.mapM fun record => record.mapM text?

/-! ### Single fields -/

/-- A byte that can stand between fields. -/
structure IsDelimiter (delimiter : UInt8) : Prop where
  ne_quote : delimiter ≠ quote
  ne_carriageReturn : delimiter ≠ carriageReturn
  ne_lineFeed : delimiter ≠ lineFeed

variable {delimiter : UInt8} {bytes : List UInt8}

lemma IsDelimiter.isLineBreak_eq_false (hd : IsDelimiter delimiter) :
    isLineBreak delimiter = false := by
  simp [isLineBreak, hd.ne_carriageReturn, hd.ne_lineFeed]

lemma isSpecial_eq_false {b : UInt8} :
    isSpecial delimiter b = false ↔ b ≠ delimiter ∧ b ≠ quote ∧ isLineBreak b = false := by
  simp [isSpecial, isLineBreak, and_assoc]

lemma eq_nil_of_encodeField (h : encodeField delimiter bytes = []) : bytes = [] := by
  unfold encodeField at h
  split_ifs at h
  · cases h
  · exact h

namespace Reading

variable {r : Reading} {b : UInt8}

lemma endOr_of_not_isSpecial (hb : isSpecial delimiter b = false) (other : Reading) :
    r.endOr delimiter b other = other := by
  obtain ⟨hd, -, hl⟩ := isSpecial_eq_false.1 hb
  rw [endOr, if_neg hd, hl]
  rfl

lemma foldl_bare (hr : r.mode = .bare) (hb : ∀ b ∈ bytes, isSpecial delimiter b = false) :
    bytes.foldl (step delimiter) r = { r with part := r.part ++ bytes } := by
  induction bytes generalizing r with
  | nil => simp
  | cons b bytes ih =>
    obtain ⟨hb, hbytes⟩ := List.forall_mem_cons.1 hb
    have hs : r.step delimiter b = r.keep .bare b := by
      rw [step, hr]
      exact (if_neg (isSpecial_eq_false.1 hb).2.1).trans (endOr_of_not_isSpecial hb _)
    rw [List.foldl_cons, hs, ih rfl hbytes]
    simp [keep, hr]

/-- Of the two quotes the first one seems to end the field, and the second one goes on with it. -/
lemma foldl_doubleQuotes (hr : r.mode = .quoted) :
    (doubleQuotes bytes).foldl (step delimiter) r = { r with part := r.part ++ bytes } := by
  induction bytes generalizing r with
  | nil => simp [doubleQuotes]
  | cons b bytes ih =>
    have hs : (if b = quote then [quote, quote] else [b]).foldl (step delimiter) r =
        r.keep .quoted b := by
      by_cases hb : b = quote
      · simp [hb, step, hr, keep]
      · simp [hb, step, hr]
    rw [doubleQuotes, List.flatMap_cons, List.foldl_append, hs]
    exact (ih rfl).trans (by simp [keep, hr])

end Reading

/-! ### Fields and what follows them -/

/-- A field can start here. -/
def Mode.Starts (mode : Mode) : Prop :=
  mode = .line ∨ mode = .field

/-- A field can end here, and so can the record. -/
def Mode.Ends (mode : Mode) : Prop :=
  mode = .field ∨ mode = .bare ∨ mode = .closed

namespace Reading

variable {records : List (List (List UInt8))} {fields : List (List UInt8)} {mode : Mode} {b : UInt8}

lemma step_quote (hm : mode.Starts) :
    step delimiter ⟨records, fields, [], mode⟩ quote = ⟨records, fields, [], .quoted⟩ := by
  have hl : isLineBreak quote = false := by decide
  rcases hm with rfl | rfl <;> simp [step, hl]

lemma step_bare (hm : mode.Starts) (hb : isSpecial delimiter b = false) :
    step delimiter ⟨records, fields, [], mode⟩ b = ⟨records, fields, [b], .bare⟩ := by
  obtain ⟨-, hq, hl⟩ := isSpecial_eq_false.1 hb
  rcases hm with rfl | rfl <;> simp [step, hq, hl, endOr_of_not_isSpecial hb, keep]

/-- A field that takes any bytes is read, and can end. -/
lemma foldl_encodeField (hm : mode.Starts) (hne : encodeField delimiter bytes ≠ []) :
    ∃ mode' : Mode, mode'.Ends ∧
      (encodeField delimiter bytes).foldl (step delimiter) ⟨records, fields, [], mode⟩ =
        ⟨records, fields, bytes, mode'⟩ := by
  unfold encodeField at hne ⊢
  split_ifs at hne ⊢ with hs
  · refine ⟨.closed, .inr (.inr rfl), ?_⟩
    rw [List.cons_append, List.foldl_cons, List.foldl_append, step_quote hm,
      foldl_doubleQuotes rfl]
    simp [step]
  · have hb : ∀ b ∈ bytes, isSpecial delimiter b = false := by simpa using hs
    cases bytes with
    | nil => exact absurd rfl hne
    | cons b bytes =>
      obtain ⟨hb, hbytes⟩ := List.forall_mem_cons.1 hb
      refine ⟨.bare, .inr (.inl rfl), ?_⟩
      rw [List.foldl_cons, step_bare hm hb, foldl_bare rfl hbytes]
      rfl

lemma step_delimiter (hd : IsDelimiter delimiter) (hm : mode = .line ∨ mode.Ends) :
    step delimiter ⟨records, fields, bytes, mode⟩ delimiter =
      ⟨records, fields ++ [bytes], [], .field⟩ := by
  rcases hm with rfl | rfl | rfl | rfl <;>
    simp [step, endOr, endField, hd.ne_quote, hd.isLineBreak_eq_false]

lemma step_lineFeed (hd : IsDelimiter delimiter) (hm : mode.Ends) :
    step delimiter ⟨records, fields, bytes, mode⟩ lineFeed =
      ⟨records ++ [fields ++ [bytes]], [], [], .line⟩ := by
  have hq : lineFeed ≠ quote := by decide
  have hl : isLineBreak lineFeed = true := by decide
  rcases hm with rfl | rfl | rfl <;> simp [step, endOr, endRecord, hq, hl, hd.ne_lineFeed.symm]

lemma foldl_encodeField_delimiter (hd : IsDelimiter delimiter) (hm : mode.Starts)
    (bytes : List UInt8) :
    (encodeField delimiter bytes ++ [delimiter]).foldl (step delimiter)
        ⟨records, fields, [], mode⟩ = ⟨records, fields ++ [bytes], [], .field⟩ := by
  rw [List.foldl_append]
  by_cases he : encodeField delimiter bytes = []
  · rw [he, eq_nil_of_encodeField he]
    exact step_delimiter hd (hm.imp_right .inl)
  · obtain ⟨mode', hm', hf⟩ := foldl_encodeField hm he
    rw [hf]
    exact step_delimiter hd (.inr hm')

/-- At the start of a line there must be something before its end. -/
lemma foldl_encodeField_lineFeed (hd : IsDelimiter delimiter) (hm : mode.Starts)
    (bytes : List UInt8) (hl : mode = .line → encodeField delimiter bytes ≠ []) :
    (encodeField delimiter bytes ++ [lineFeed]).foldl (step delimiter)
        ⟨records, fields, [], mode⟩ = ⟨records ++ [fields ++ [bytes]], [], [], .line⟩ := by
  rw [List.foldl_append]
  by_cases he : encodeField delimiter bytes = []
  · obtain rfl := hm.resolve_left fun hm => hl hm he
    rw [he, eq_nil_of_encodeField he]
    exact step_lineFeed hd (.inl rfl)
  · obtain ⟨mode', hm', hf⟩ := foldl_encodeField hm he
    rw [hf]
    exact step_lineFeed hd hm'

/-! ### Records -/

lemma foldl_fields (hd : IsDelimiter delimiter) (hm : mode.Starts) (field : List UInt8)
    (rest : List (List UInt8))
    (hl : mode = .line →
      [delimiter].intercalate ((field :: rest).map (encodeField delimiter)) ≠ []) :
    ([delimiter].intercalate ((field :: rest).map (encodeField delimiter)) ++ [lineFeed]).foldl
        (step delimiter) ⟨records, fields, [], mode⟩ =
      ⟨records ++ [fields ++ field :: rest], [], [], .line⟩ := by
  induction rest generalizing field fields mode with
  | nil =>
    rw [List.map_singleton, List.intercalate_singleton] at hl ⊢
    exact foldl_encodeField_lineFeed hd hm field hl
  | cons next rest ih =>
    rw [List.map_cons, List.map_cons, List.intercalate_cons_cons, List.append_assoc,
      List.foldl_append, foldl_encodeField_delimiter hd hm, ← List.map_cons,
      ih (.inr rfl) next nofun]
    simp

/-- A record of one empty field is not lost, as two quotes stand for it. -/
lemma foldl_encodeRecord (hd : IsDelimiter delimiter) {record : List (List UInt8)}
    (hr : record ≠ []) (records : List (List (List UInt8))) :
    (encodeRecord delimiter record).foldl (step delimiter) ⟨records, [], [], .line⟩ =
      ⟨records ++ [record], [], [], .line⟩ := by
  obtain ⟨field, rest, rfl⟩ := List.exists_cons_of_ne_nil hr
  simp only [encodeRecord]
  split_ifs with hl
  · have he : field :: rest = [[]] := by
      cases rest with
      | nil =>
        rw [List.map_singleton, List.intercalate_singleton] at hl
        rw [eq_nil_of_encodeField hl]
      | cons next rest => simp [List.intercalate_cons_cons] at hl
    rw [he]
    have hq : [quote, quote].foldl (step delimiter) ⟨records, [], [], .line⟩ =
        ⟨records, [], [], .closed⟩ := by
      rw [List.foldl_cons, step_quote (.inl rfl)]
      simp [step]
    rw [List.foldl_append, hq]
    exact step_lineFeed hd (.inr (.inr rfl))
  · exact foldl_fields hd (.inl rfl) field rest fun _ => hl

lemma foldl_encodeRecords (hd : IsDelimiter delimiter) {written : List (List (List UInt8))}
    (hw : ∀ record ∈ written, record ≠ []) (records : List (List (List UInt8))) :
    (encodeRecords delimiter written).foldl (step delimiter) ⟨records, [], [], .line⟩ =
      ⟨records ++ written, [], [], .line⟩ := by
  induction written generalizing records with
  | nil => simp [encodeRecords]
  | cons record written ih =>
    obtain ⟨hr, hw⟩ := List.forall_mem_cons.1 hw
    rw [encodeRecords, List.flatMap_cons, List.foldl_append, foldl_encodeRecord hd hr]
    exact (ih hw _).trans (by simp)

end Reading

/-- Records that were written are read, if they have fields. -/
lemma readRecords_encodeRecords (hd : IsDelimiter delimiter) {records : List (List (List UInt8))}
    (hr : ∀ record ∈ records, record ≠ []) :
    readRecords delimiter (encodeRecords delimiter records) = some records := by
  rw [readRecords, Reading.start, Reading.foldl_encodeRecords hd hr]
  rfl

/-- Records may end in other line breaks too, and the last one in none. Blank lines are no
records. -/
example : readRecords 59 (fieldBytes "a;\"b;\"\"\"\r\n\n;\rc") =
    some ([["a", "b;\""], ["", ""], ["c"]].map (·.map fieldBytes)) := by
  decide

/-! ### Texts -/

lemma text?_fieldBytes (s : String) : text? (fieldBytes s) = some s := by
  have hs : (fieldBytes s).toByteArray = s.toByteArray := String.utf8Encode_toList
  rw [text?, hs, String.fromUTF8?, dif_pos s.isValidUTF8]
  rfl

lemma mapM_map_of_inverse {α β : Type} {f : α → β} {g : β → Option α}
    (h : ∀ a, g (f a) = some a) (xs : List α) : (xs.map f).mapM g = some xs := by
  induction xs with
  | nil => rfl
  | cons x xs ih => simp [h, ih]

lemma readTexts_encodeRecords (hd : IsDelimiter delimiter) {texts : List (List String)}
    (ht : ∀ record ∈ texts, record ≠ []) :
    readTexts delimiter (encodeRecords delimiter
      (texts.map fun record => record.map fieldBytes)) = some texts := by
  rw [readTexts, readRecords_encodeRecords hd (by simpa using ht), Option.bind_some]
  exact mapM_map_of_inverse (mapM_map_of_inverse text?_fieldBytes) texts

/-! ### Records of one length -/

/-- A record has another number of fields than the first one. -/
structure UnequalLengths where
  expected : Nat
  actual : Nat
deriving DecidableEq, Repr

/-- Write records after some that had the `expected` number of fields, if there were any. -/
def writeRecords (delimiter : UInt8) (expected : Option Nat) :
    List (List (List UInt8)) → Except UnequalLengths (List UInt8)
  | [] => .ok []
  | record :: rest =>
    let n := expected.getD record.length
    if record.length ≠ n then .error ⟨n, record.length⟩
    else (writeRecords delimiter (some n) rest).map (encodeRecord delimiter record ++ ·)

def writeTable (delimiter : UInt8) (t : Table) : Except UnequalLengths (List UInt8) :=
  writeRecords delimiter none ((t.header :: t.textGrid).map fun record => record.map fieldBytes)

lemma writeRecords_of_length {records : List (List (List UInt8))} {n : Nat}
    (hr : ∀ record ∈ records, record.length = n) {expected : Option Nat}
    (he : expected.getD n = n) :
    writeRecords delimiter expected records = .ok (encodeRecords delimiter records) := by
  induction records generalizing expected with
  | nil => rfl
  | cons record rest ih =>
    obtain ⟨rfl, hrest⟩ := List.forall_mem_cons.1 hr
    rw [writeRecords, he, ih hrest rfl]
    simp [encodeRecords, Except.map]

/-- No row of a table is longer or shorter than its header. -/
lemma writeTable_eq (delimiter : UInt8) (t : Table) :
    writeTable delimiter t = .ok (ofTable delimiter t) := by
  refine writeRecords_of_length (n := t.columns.length + 1) ?_ rfl
  simp [Table.header, Table.textGrid, Table.rowTexts, Table.rowCells]

/-- A table is written without an error, and what is written is well formed and holds exactly the
header and the rows: the identifier of each, then the texts of its cells in the order of the
columns. -/
theorem readTexts_serialize {delimiter : UInt8} (hd : IsDelimiter delimiter) (t : Table) :
    let grid := (Table.idHeading :: t.columns) :: t.rows.map fun r =>
      r.id :: t.columns.map fun column => (Table.cell r column).toText
    let bytes := Format.serialize t (.csv delimiter)
    writeTable delimiter t = .ok bytes ∧ readTexts delimiter bytes = some grid ∧
      grid.length = 1 + t.size := by
  intro grid bytes
  have hrow : ∀ r, t.rowTexts r =
      r.id :: t.columns.map fun column => (Table.cell r column).toText := by
    intro r
    rw [Table.rowTexts, Table.rowCells, List.map_map]
    rfl
  have hgrid : t.header :: t.textGrid = grid := by
    rw [Table.textGrid, List.map_congr_left fun r _ => hrow r]
    rfl
  refine ⟨writeTable_eq delimiter t, ?_, ?_⟩
  · rw [← hgrid]
    refine readTexts_encodeRecords hd ?_
    simp [Table.header, Table.textGrid, Table.rowTexts]
  · simp [grid, Table.size, Nat.add_comm]

/-- The delimiter is the first byte of the identifier of the second row. -/
theorem readTexts_serialize_of_letter :
    let t := Table.empty.extend
      [⟨"", [("_,", .str "say \"hi\"\r\n")], by simp⟩, ⟨"é", [], by simp⟩]
    IsDelimiter 195 ∧ readTexts 195 (Format.serialize t (.csv 195)) =
      some [["_id", "_,"], ["", "say \"hi\"\r\n"], ["é", ""]] := by
  intro t
  have hd : IsDelimiter 195 := ⟨by decide, by decide, by decide⟩
  exact ⟨hd, (readTexts_serialize hd t).2.1⟩

end ScrollExport.Delimited
