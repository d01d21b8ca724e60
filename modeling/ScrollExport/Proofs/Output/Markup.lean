import ScrollExport.Proofs.Output.Listing
import ScrollExport.Text.Split

/-!
# Reading HTML tables

A reader of tags and of the texts between them, and what it finds in a table that was written: tags
that depend on the class and on the numbers of columns and rows alone, and in the cells the header
and the rows, text by text, whatever the texts hold.
-/

namespace ScrollExport.Markup

/-! ### A reader -/

/-- A character that is only written as an entity. -/
def isMarked (c : Char) : Bool :=
  c ∈ ['&', '<', '>', '"', '\'']

/-- The text with its entities decoded once, if each of the characters that need one has it. -/
def decode? : List Char → Option (List Char)
  | [] => some []
  | '&' :: 'a' :: 'm' :: 'p' :: ';' :: cs => (decode? cs).map ('&' :: ·)
  | '&' :: 'l' :: 't' :: ';' :: cs => (decode? cs).map ('<' :: ·)
  | '&' :: 'g' :: 't' :: ';' :: cs => (decode? cs).map ('>' :: ·)
  | '&' :: 'q' :: 'u' :: 'o' :: 't' :: ';' :: cs => (decode? cs).map ('"' :: ·)
  | '&' :: '#' :: '3' :: '9' :: ';' :: cs => (decode? cs).map ('\'' :: ·)
  | c :: cs => if isMarked c then none else (decode? cs).map (c :: ·)

inductive Tag where
  | opening (name : String) (attributes : List (String × String))
  | closing (name : String)
deriving DecidableEq, Repr

/-- The name of an attribute, from the blank before it to the equal sign after it. -/
def attributeName? : List Char → Option String
  | ' ' :: cs => if cs.getLast? = some '=' then some (String.ofList cs.dropLast) else none
  | _ => none

/-- The attributes of a tag that was cut at its quotes: names and values in turn. -/
def attributes? : List (List Char) → Option (List (String × String))
  | key :: value :: rest =>
    (attributeName? key).bind fun name => (decode? value).bind fun value =>
      (attributes? rest).map ((name, String.ofList value) :: ·)
  | [[]] => some []
  | _ => none

/-- The tag with this text between its angle brackets. -/
def tag? : List Char → Option Tag
  | '/' :: name => some (.closing (String.ofList name))
  | cs =>
    (attributes? (Text.splitChars (· = '"') (cs.dropWhile (· ≠ ' ')))).map
      (.opening (String.ofList (cs.takeWhile (· ≠ ' '))))

/-- A tag, and the text from there to the next tag. -/
structure Item where
  tag : Tag
  text : String
deriving DecidableEq, Repr

def item? (cs : List Char) : Option Item :=
  (Text.splitFirst '>' cs).bind fun (inside, text) => (tag? inside).bind fun tag =>
    (decode? text).map fun text => ⟨tag, String.ofList text⟩

/-- What stands before the first tag, and the tags. -/
def scan? (cs : List Char) : Option (List Char × List Item) :=
  match Text.splitChars (· = '<') cs with
  | [] => none
  | before :: pieces => (pieces.mapM item?).map (before, ·)

/-- The tags of a text that starts with one. -/
def items? (cs : List Char) : Option (List Item) :=
  (scan? cs).bind fun (before, items) => if before = [] then some items else none

/-! ### Tables -/

namespace Tag

def isRow : Tag → Bool
  | opening name _ => name = "tr"
  | closing _ => false

def isCell : Tag → Bool
  | opening name _ => name = "th" || name = "td"
  | closing _ => false

end Tag

/-- The texts of the cells: of those before the first row, and of each row. -/
def cells : List Item → List String × List (List String)
  | [] => ([], [])
  | i :: rest =>
    let (row, rows) := cells rest
    if i.tag.isRow then ([], row :: rows)
    else if i.tag.isCell then (i.text :: row, rows)
    else (row, rows)

def grid (items : List Item) : List (List String) :=
  (cells items).2

def element (name : String) (attributes : List (String × String)) (inner : List Tag) : List Tag :=
  .opening name attributes :: inner ++ [.closing name]

def cellTags (name : String) (n : Nat) : List Tag :=
  (List.replicate n (element name [] [])).flatten

def rowTags (columns : Nat) : List Tag :=
  element "tr" [] (element "th" [] [] ++ cellTags "td" columns)

/-- The tags of a table, apart from what its cells hold. -/
def tableTags (cls : String) (columns rows : Nat) : List Tag :=
  element "table" [("border", "1"), ("class", cls)]
    (element "thead" []
        (element "tr" [("style", "text-align: right;")] (cellTags "th" (columns + 1))) ++
      element "tbody" [] (List.replicate rows (rowTags columns)).flatten)

/-- Each tag that is opened is closed, the last one first. -/
inductive Nested : List Tag → Prop where
  | nil : Nested []
  | element {name : String} {attributes : List (String × String)} {inner rest : List Tag}
    (hi : Nested inner) (hr : Nested rest) : Nested (element name attributes inner ++ rest)

lemma Nested.append {as bs : List Tag} (ha : Nested as) (hb : Nested bs) : Nested (as ++ bs) := by
  induction ha with
  | nil => exact hb
  | element hi hr _ ih =>
    rw [List.append_assoc]
    exact .element hi ih

lemma Nested.single {name : String} {attributes : List (String × String)} {inner : List Tag}
    (hi : Nested inner) : Nested (Markup.element name attributes inner) := by
  rw [← List.append_nil (Markup.element name attributes inner)]
  exact .element hi .nil

lemma Nested.replicate {tags : List Tag} (h : Nested tags) (n : Nat) :
    Nested (List.replicate n tags).flatten := by
  induction n with
  | zero => exact .nil
  | succ n ih => exact h.append ih

lemma nested_tableTags (cls : String) (columns rows : Nat) :
    Nested (tableTags cls columns rows) := by
  have hc (name : String) (n : Nat) : Nested (cellTags name n) := Nested.nil.single.replicate n
  have hr : Nested (rowTags columns) := (Nested.nil.single.append (hc "td" columns)).single
  exact ((hc "th" (columns + 1)).single.single.append (hr.replicate rows).single).single

/-! ### Texts -/

lemma escapeChar_of_not_isMarked {c : Char} (hc : isMarked c = false) : escapeChar c = [c] := by
  unfold escapeChar
  split
  case h_6 => rfl
  all_goals exact absurd hc (by decide)

lemma eq_of_isMarked {c : Char} (hc : isMarked c = true) :
    c = '&' ∨ c = '<' ∨ c = '>' ∨ c = '"' ∨ c = '\'' := by
  simpa [isMarked] using hc

lemma decode?_of_not_isMarked {c : Char} (hc : isMarked c = false) (cs : List Char) :
    decode? (c :: cs) = (decode? cs).map (c :: ·) := by
  rw [decode?.eq_def]
  split
  case h_1 h => cases h
  case h_7 h =>
    obtain ⟨rfl, rfl⟩ := List.cons.inj h
    rw [hc]
    rfl
  all_goals
    rename_i h
    obtain ⟨rfl, -⟩ := List.cons.inj h
    exact absurd hc (by decide)

lemma decode?_escapeChar (c : Char) (cs : List Char) :
    decode? (escapeChar c ++ cs) = (decode? cs).map (c :: ·) := by
  cases hc : isMarked c with
  | false =>
    rw [escapeChar_of_not_isMarked hc]
    exact decode?_of_not_isMarked hc cs
  | true => rcases eq_of_isMarked hc with rfl | rfl | rfl | rfl | rfl <;> rfl

/-- A text is its escaped form, decoded once. -/
lemma decode?_escape (s : String) : decode? (escape s) = some s.toList := by
  have h (cs : List Char) : decode? (cs.flatMap escapeChar) = some cs := by
    induction cs with
    | nil => rfl
    | cons c cs ih => rw [List.flatMap_cons, decode?_escapeChar, ih, Option.map_some]
  exact h s.toList

/-- A text that looks escaped is escaped once more, and decoded once. -/
example : escape "&lt;" = "&amp;lt;".toList ∧ decode? (escape "&lt;") = some "&lt;".toList := by
  decide

lemma decode?_of_forall {cs : List Char} (h : ∀ c ∈ cs, isMarked c = false) :
    decode? cs = some cs := by
  induction cs with
  | nil => rfl
  | cons c cs ih =>
    obtain ⟨hc, h⟩ := List.forall_mem_cons.1 h
    rw [decode?_of_not_isMarked hc, ih h, Option.map_some]

/-- No bracket and no quote is left in an escaped text. -/
lemma notMem_escape {c : Char} (hc : c ∈ ['<', '>', '"']) (s : String) : c ∉ escape s := by
  intro h
  obtain ⟨d, -, hd⟩ := List.mem_flatMap.1 h
  cases hm : isMarked d with
  | false =>
    rw [escapeChar_of_not_isMarked hm, List.mem_singleton] at hd
    subst hd
    simp [isMarked] at hm
    simp [hm] at hc
  | true =>
    have h : (escapeChar d).all (· ∉ ['<', '>', '"']) = true := by
      rcases eq_of_isMarked hm with rfl | rfl | rfl | rfl | rfl <;> decide
    exact of_decide_eq_true (List.all_eq_true.1 h c hd) hc

/-! ### Scanning -/

variable {before rest text written : List Char} {items : List Item} {tag : Tag}

/-- The text is this tag, with its angle brackets. -/
def Denotes (written : List Char) (tag : Tag) : Prop :=
  ∃ inside, written = '<' :: (inside ++ ['>']) ∧ '<' ∉ inside ∧ '>' ∉ inside ∧
    tag? inside = some tag

def attributeChars (name : String) (value : List Char) : List Char :=
  ' ' :: (name.toList ++ '=' :: '"' :: (value ++ ['"']))

lemma attributes?_written {name : String} {value : List Char} (hn : '"' ∉ name.toList)
    (hq : '"' ∉ value) (hv : decode? value = some text) (written : List Char) :
    attributes? (Text.splitChars (· = '"') (attributeChars name value ++ written)) =
      (attributes? (Text.splitChars (· = '"') written)).map ((name, String.ofList text) :: ·) := by
  have hne {cs : List Char} (h : '"' ∉ cs) : ∀ c ∈ cs, decide (c = '"') = false := by
    intro c hc
    rw [decide_eq_false_iff_not]
    rintro rfl
    exact h hc
  have hkey : '"' ∉ ' ' :: (name.toList ++ ['=']) := by simpa using hn
  have hname : attributeName? (' ' :: (name.toList ++ ['='])) = some name := by
    simp [attributeName?]
  have he : attributeChars name value ++ written =
      ' ' :: (name.toList ++ ['=']) ++ '"' :: (value ++ '"' :: written) := by
    simp [attributeChars]
  rw [he, Text.splitChars_append_separator (hne hkey) (by decide),
    Text.splitChars_append_separator (hne hq) (by decide), attributes?, hname, hv]
  rfl

/-- A tag with attributes: they start with a blank. -/
lemma denotes_opening {name : String} {attributes : List (String × String)}
    (hn : name.toList.all Char.isAlpha = true) (hne : name.toList ≠ [])
    (hs : written.head? = some ' ') (hl : '<' ∉ written) (hg : '>' ∉ written)
    (ha : attributes? (Text.splitChars (· = '"') written) = some attributes) :
    Denotes ('<' :: (name.toList ++ written ++ ['>'])) (.opening name attributes) := by
  rw [List.all_eq_true] at hn
  have hnot {c : Char} (hc : c.isAlpha = false) : c ∉ name.toList := fun h => by
    rw [hn c h] at hc
    cases hc
  have hb : ∀ c ∈ name.toList, decide (c ≠ ' ') = true := by
    intro c hc
    rw [decide_eq_true_eq]
    rintro rfl
    exact hnot rfl hc
  obtain ⟨rest, rfl⟩ : ∃ rest, written = ' ' :: rest := List.head?_eq_some_iff.1 hs
  have htake : (name.toList ++ ' ' :: rest).takeWhile (· ≠ ' ') = name.toList := by
    rw [List.takeWhile_append_of_pos hb]
    simp
  have hdrop : (name.toList ++ ' ' :: rest).dropWhile (· ≠ ' ') = ' ' :: rest := by
    rw [List.dropWhile_append_of_pos hb]
    simp
  refine ⟨_, rfl, ?_, ?_, ?_⟩
  · exact List.mem_append.not.2 (not_or.2 ⟨hnot (by decide), hl⟩)
  · exact List.mem_append.not.2 (not_or.2 ⟨hnot (by decide), hg⟩)
  · unfold tag?
    split
    case h_1 heq =>
      obtain ⟨c, cs, hcs⟩ := List.exists_cons_of_ne_nil hne
      rw [hcs, List.cons_append] at heq
      obtain ⟨rfl, -⟩ := List.cons.inj heq
      exact absurd (hn '/' (by simp [hcs])) (by decide)
    case h_2 => rw [htake, hdrop, ha, Option.map_some, String.ofList_toList]

lemma scan?_eq_some_iff {cs : List Char} :
    scan? cs = some (before, items) ↔
      ∃ pieces, Text.splitChars (· = '<') cs = before :: pieces ∧
        pieces.mapM item? = some items := by
  unfold scan?
  cases h : Text.splitChars (· = '<') cs with
  | nil => exact absurd h (Text.splitChars_ne_nil _ _)
  | cons p ps => simp [and_comm]

lemma scan?_append {s : List Char} (hs : '<' ∉ s) (h : scan? rest = some (before, items)) :
    scan? (s ++ rest) = some (s ++ before, items) := by
  obtain ⟨pieces, hp, hi⟩ := scan?_eq_some_iff.1 h
  refine scan?_eq_some_iff.2 ⟨pieces, Text.splitChars_append (fun c hc => ?_) hp, hi⟩
  rw [decide_eq_false_iff_not]
  rintro rfl
  exact hs hc

lemma eq_nil_of_scan? {cs : List Char} (h : scan? ('<' :: cs) = some (before, items)) :
    before = [] := by
  obtain ⟨pieces, hp, -⟩ := scan?_eq_some_iff.1 h
  rw [Text.splitChars_separator (by simp)] at hp
  exact (List.cons.inj hp).1.symm

/-- A tag, and the text from there to the next one. -/
lemma scan?_tag (hw : Denotes written tag) (hd : decode? before = some text)
    (h : scan? rest = some (before, items)) :
    scan? (written ++ rest) = some ([], ⟨tag, String.ofList text⟩ :: items) := by
  obtain ⟨inside, rfl, hl, hg, ht⟩ := hw
  have hb : '<' ∉ inside ++ ['>'] := by simp [hl]
  obtain ⟨pieces, hp, hi⟩ := scan?_eq_some_iff.1 (scan?_append hb h)
  have hitem : item? (inside ++ ['>'] ++ before) = some ⟨tag, String.ofList text⟩ := by
    rw [List.append_assoc, List.singleton_append]
    simp [item?, Text.splitFirst_append hg, ht, hd]
  refine scan?_eq_some_iff.2 ⟨(inside ++ ['>'] ++ before) :: pieces, ?_, ?_⟩
  · rw [List.cons_append, Text.splitChars_separator (by simp)]
    exact congrArg _ hp
  · rw [List.mapM_cons, hitem, hi]
    rfl

/-! ### What is shown -/

/-- The text shows these tags, and in their cells these texts: those of a row that began before it,
and those of the rows in it. -/
def Shows (cs : List Char) (tags : List Tag) (row : List String) (rows : List (List String)) :
    Prop :=
  ∃ before items, scan? cs = some (before, items) ∧ (∀ c ∈ before, isMarked c = false) ∧
    items.map Item.tag = tags ∧ cells items = (row, rows)

namespace Shows

variable {tags : List Tag} {row : List String} {rows : List (List String)}

lemma nil : Shows [] [] [] [] :=
  ⟨[], [], rfl, nofun, rfl, rfl⟩

/-- A text outside of the cells shows nothing. -/
lemma append {s : List Char} (hs : ∀ c ∈ s, isMarked c = false) (h : Shows rest tags row rows) :
    Shows (s ++ rest) tags row rows := by
  obtain ⟨before, items, hscan, hb, ht, hc⟩ := h
  refine ⟨s ++ before, items, scan?_append (fun h => ?_) hscan, ?_, ht, hc⟩
  · exact absurd (hs _ h) (by decide)
  · exact List.forall_mem_append.2 ⟨hs, hb⟩

/-- A tag that begins no row and no cell. -/
lemma append_tag (hw : Denotes written tag) (hr : tag.isRow = false) (hc : tag.isCell = false)
    (h : Shows rest tags row rows) : Shows (written ++ rest) (tag :: tags) row rows := by
  obtain ⟨before, items, hscan, hb, rfl, hcells⟩ := h
  refine ⟨[], _, scan?_tag hw (decode?_of_forall hb) hscan, nofun, rfl, ?_⟩
  simp [cells, hr, hc, hcells]

lemma append_row (hw : Denotes written tag) (hr : tag.isRow = true)
    (h : Shows rest tags row rows) : Shows (written ++ rest) (tag :: tags) [] (row :: rows) := by
  obtain ⟨before, items, hscan, hb, rfl, hcells⟩ := h
  refine ⟨[], _, scan?_tag hw (decode?_of_forall hb) hscan, nofun, rfl, ?_⟩
  simp [cells, hr, hcells]

/-- A tag that begins a cell, and the text of the cell, up to the next tag. -/
lemma append_cell (hw : Denotes written tag) (hr : tag.isRow = false) (hc : tag.isCell = true)
    (s : String) (h : Shows ('<' :: rest) tags row rows) :
    Shows (written ++ (escape s ++ '<' :: rest)) (tag :: tags) (s :: row) rows := by
  obtain ⟨before, items, hscan, -, rfl, hcells⟩ := h
  obtain rfl := eq_nil_of_scan? hscan
  have hs : '<' ∉ escape s := notMem_escape (by simp) s
  have he := scan?_append hs hscan
  rw [List.append_nil] at he
  refine ⟨[], _, scan?_tag hw (decode?_escape s) he, nofun, rfl, ?_⟩
  simp [cells, hr, hc, hcells]

/-! ### Lines -/

lemma lineBreak (h : Shows rest tags row rows) : Shows ('\n' :: rest) tags row rows :=
  h.append (s := ['\n']) (List.forall_mem_singleton.2 (by decide))

lemma indented (depth : Nat) (h : Shows rest tags row rows) :
    Shows (spaces depth ++ rest) tags row rows := by
  refine h.append fun c hc => ?_
  rw [List.eq_of_mem_replicate hc]
  decide

lemma line (depth : Nat) {s : String} (hs : Denotes s.toList tag) (hr : tag.isRow = false)
    (hc : tag.isCell = false) (h : Shows rest tags row rows) :
    Shows (Markup.line depth s ++ rest) (tag :: tags) row rows := by
  rw [Markup.line, List.append_assoc, List.append_assoc]
  exact (h.lineBreak.append_tag hs hr hc).indented depth

lemma rowLine (depth : Nat) {s : String} (hs : Denotes s.toList tag) (hr : tag.isRow = true)
    (h : Shows rest tags row rows) :
    Shows (Markup.line depth s ++ rest) (tag :: tags) [] (row :: rows) := by
  rw [Markup.line, List.append_assoc, List.append_assoc]
  exact (h.lineBreak.append_row hs hr).indented depth

lemma cellLine {name : String} (hn : name = "th" ∨ name = "td") (s : String)
    (h : Shows rest tags row rows) :
    Shows (Markup.cellLine name s ++ rest) (element name [] [] ++ tags) (s :: row) rows := by
  have hopening : Denotes ('<' :: (name.toList ++ ['>'])) (.opening name []) :=
    ⟨name.toList, by rcases hn with rfl | rfl <;> decide⟩
  have hclosing : Denotes ('<' :: '/' :: (name.toList ++ ['>'])) (.closing name) :=
    ⟨'/' :: name.toList, by rcases hn with rfl | rfl <;> decide⟩
  have hc : (Tag.opening name []).isCell = true ∧ (Tag.opening name []).isRow = false := by
    rcases hn with rfl | rfl <;> decide
  have hrest := (h.lineBreak.append_tag hclosing rfl rfl)
  have hcell := (hrest.append_cell hopening hc.2 hc.1 s).indented 6
  simpa [Markup.cellLine, element] using hcell

lemma cellLines {name : String} (hn : name = "th" ∨ name = "td") (texts : List String)
    (h : Shows rest tags row rows) :
    Shows (texts.flatMap (Markup.cellLine name) ++ rest) (cellTags name texts.length ++ tags)
      (texts ++ row) rows := by
  induction texts with
  | nil => exact h
  | cons s texts ih =>
    rw [List.flatMap_cons, List.append_assoc]
    exact ih.cellLine hn s

lemma rowLines (heading : String) (texts : List String) (h : Shows rest tags [] rows) :
    Shows (Markup.rowLines (heading :: texts) ++ rest) (rowTags texts.length ++ tags) []
      ((heading :: texts) :: rows) := by
  have hopening : Denotes "<tr>".toList (.opening "tr" []) := ⟨"tr".toList, by decide⟩
  have hclosing : Denotes "</tr>".toList (.closing "tr") := ⟨"/tr".toList, by decide⟩
  have hcells := (h.line 4 hclosing rfl rfl).cellLines (.inr rfl) texts
  have hrow := (hcells.cellLine (.inl rfl) heading).rowLine 4 hopening rfl
  simpa [Markup.rowLines, rowTags, element] using hrow

lemma allRowLines {n : Nat} {grid : List (List String)} (hg : ∀ texts ∈ grid, texts.length = n + 1)
    (h : Shows rest tags [] rows) :
    Shows (grid.flatMap Markup.rowLines ++ rest)
      ((List.replicate grid.length (rowTags n)).flatten ++ tags) [] (grid ++ rows) := by
  induction grid with
  | nil => exact h
  | cons texts grid ih =>
    obtain ⟨ht, hrest⟩ := List.forall_mem_cons.1 hg
    obtain ⟨heading, texts, rfl⟩ := List.exists_cons_of_length_eq_add_one ht
    have hn : texts.length = n := Nat.succ.inj ht
    have hrow := (ih hrest).rowLines heading texts
    rw [hn] at hrow
    rw [List.flatMap_cons, List.append_assoc]
    simpa [List.replicate_succ] using hrow

lemma headLines {header : List String} {n : Nat} (hn : header.length = n + 1)
    (h : Shows rest tags [] rows) :
    Shows (Markup.headLines header ++ rest)
      (element "thead" []
        (element "tr" [("style", "text-align: right;")] (cellTags "th" (n + 1))) ++ tags) []
      (header :: rows) := by
  have hhead : Denotes "<thead>".toList (.opening "thead" []) := ⟨"thead".toList, by decide⟩
  have hhead' : Denotes "</thead>".toList (.closing "thead") := ⟨"/thead".toList, by decide⟩
  have hrow : Denotes "<tr style=\"text-align: right;\">".toList
      (.opening "tr" [("style", "text-align: right;")]) := by
    have hstyle : decode? "text-align: right;".toList = some "text-align: right;".toList := by
      decide
    change Denotes ('<' :: ("tr".toList ++
      (attributeChars "style" "text-align: right;".toList ++ []) ++ ['>'])) _
    exact denotes_opening (by decide) (by decide) rfl (by decide) (by decide)
      (attributes?_written (by decide) (by decide) hstyle [])
  have hrow' : Denotes "</tr>".toList (.closing "tr") := ⟨"/tr".toList, by decide⟩
  have hcells := ((h.line 2 hhead' rfl rfl).line 4 hrow' rfl rfl).cellLines (.inl rfl) header
  have hlines := (hcells.rowLine 4 hrow rfl).line 2 hhead rfl rfl
  simpa [Markup.headLines, element, hn] using hlines

/-- The class is written between quotes, and holds none. -/
lemma openTable (cls : String) (h : Shows rest tags row rows) :
    Shows (Markup.openTable cls ++ rest)
      (.opening "table" [("border", "1"), ("class", cls)] :: tags) row rows := by
  have hone : decode? "1".toList = some "1".toList := by decide
  have hattributes : attributes? (Text.splitChars (· = '"')
      (attributeChars "border" "1".toList ++ (attributeChars "class" (escape cls) ++ []))) =
      some [("border", "1"), ("class", cls)] := by
    rw [attributes?_written (by decide) (by decide) hone,
      attributes?_written (by decide) (notMem_escape (by simp) cls) (decode?_escape cls),
      String.ofList_toList, String.ofList_toList]
    rfl
  have hl := notMem_escape (c := '<') (by simp) cls
  have hg := notMem_escape (c := '>') (by simp) cls
  have htag : Denotes ('<' :: ("table".toList ++
      (attributeChars "border" "1".toList ++ (attributeChars "class" (escape cls) ++ [])) ++ ['>']))
      (.opening "table" [("border", "1"), ("class", cls)]) :=
    denotes_opening (by decide) (by decide) rfl (by simpa [attributeChars] using hl)
      (by simpa [attributeChars] using hg) hattributes
  have he : Markup.openTable cls ++ rest =
      '<' :: ("table".toList ++ (attributeChars "border" "1".toList ++
        (attributeChars "class" (escape cls) ++ [])) ++ ['>']) ++ '\n' :: rest := by
    unfold Markup.openTable attributeChars
    simp only [List.append_assoc, List.cons_append, List.nil_append]
    rfl
  rw [he]
  exact h.lineBreak.append_tag htag rfl rfl

lemma ofTable (cls : String) (t : Table) :
    Shows (Markup.ofTable cls t) (tableTags cls t.columns.length t.size) []
      (t.header :: t.textGrid) := by
  have hbody : Denotes "<tbody>".toList (.opening "tbody" []) := ⟨"tbody".toList, by decide⟩
  have hbody' : Denotes "</tbody>".toList (.closing "tbody") := ⟨"/tbody".toList, by decide⟩
  have htable : Denotes "</table>".toList (.closing "table") := ⟨"/table".toList, by decide⟩
  have hgrid : ∀ texts ∈ t.textGrid, texts.length = t.columns.length + 1 := by
    simp [Table.textGrid, Table.rowTexts, Table.rowCells]
  have hend := (Shows.nil.line 0 htable rfl rfl).line 2 hbody' rfl rfl
  have hbodyLines := (hend.allRowLines hgrid).line 2 hbody rfl rfl
  have hheader : t.header.length = t.columns.length + 1 := rfl
  have hall := (hbodyLines.headLines hheader).openTable cls
  simpa [Markup.ofTable, tableTags, element, Table.textGrid, Table.size] using hall

end Shows

/-! ### Reading back -/

def read? (bytes : List UInt8) : Option (List Item) :=
  (Delimited.text? bytes).bind fun s => items? s.toList

lemma serialize_html (cls : String) (t : Table) :
    Format.serialize t (.html cls) = Text.utf8 (ofTable cls t) := rfl

lemma exists_read? (cls : String) (t : Table) :
    ∃ items, read? (Format.serialize t (.html cls)) = some items ∧
      items.map Item.tag = tableTags cls t.columns.length t.size ∧
      grid items = t.header :: t.textGrid := by
  obtain ⟨before, items, hscan, -, htags, hcells⟩ := Shows.ofTable cls t
  refine ⟨items, ?_, htags, by rw [grid, hcells]⟩
  obtain rfl : before = [] := by
    unfold ofTable openTable at hscan
    simp only [List.append_assoc] at hscan
    exact eq_nil_of_scan? hscan
  rw [read?, serialize_html, Listing.text?_utf8, Option.bind_some, String.toList_ofList, items?,
    hscan]
  rfl

/-- Tables with the same text have the same class and the same grid. -/
lemma eq_of_serialize_eq {cls cls' : String} {t t' : Table}
    (h : Format.serialize t' (.html cls') = Format.serialize t (.html cls)) :
    cls' = cls ∧ t'.header = t.header ∧ t'.textGrid = t.textGrid := by
  obtain ⟨items, hi, htags, hgrid⟩ := exists_read? cls t
  obtain ⟨items', hi', htags', hgrid'⟩ := exists_read? cls' t'
  rw [h, hi] at hi'
  obtain rfl := Option.some.inj hi'
  have htable := htags'.symm.trans htags
  simp only [tableTags, element, List.cons_append] at htable
  obtain ⟨hheader, hrows⟩ := List.cons.inj (hgrid'.symm.trans hgrid)
  refine ⟨?_, hheader, hrows⟩
  simpa using (List.cons.inj htable).1

/-- Whatever the class and the texts hold, the tags of a table are those that its class and its
numbers of columns and rows ask for, and between the tags of its cells are the texts of the grid,
escaped once. So the class and the grid make the text, and the text makes them. -/
theorem read?_serialize_html (cls : String) (t : Table) :
    (∃ items, read? (Format.serialize t (.html cls)) = some items ∧
      items.map Item.tag = tableTags cls t.columns.length t.size ∧
      Nested (items.map Item.tag) ∧
      grid items = (Table.idHeading :: t.columns) :: t.rows.map fun r =>
        r.id :: t.columns.map fun column => (Table.cell r column).toText) ∧
    ∀ cls' t', Format.serialize t' (.html cls') = Format.serialize t (.html cls) ↔
      cls' = cls ∧ t'.header = t.header ∧ t'.textGrid = t.textGrid := by
  refine ⟨?_, fun cls' t' => ⟨eq_of_serialize_eq, ?_⟩⟩
  · obtain ⟨items, hi, htags, hgrid⟩ := exists_read? cls t
    refine ⟨items, hi, htags, htags ▸ nested_tableTags _ _ _, hgrid.trans ?_⟩
    simp [Table.header, Table.textGrid, Table.rowTexts, Table.rowCells]
  · rintro ⟨rfl, hheader, hrows⟩
    rw [serialize_html, serialize_html, ofTable, ofTable, hheader, hrows]

end ScrollExport.Markup
