import Mathlib.Data.Finset.Dedup
import Mathlib.Data.Finset.Insert
import ScrollExport.Proofs.Table.Columns

/-!
# Tables with a set of their columns

Whether a name is a column already can be looked up in a set that is kept beside the list of
columns. Such a table grows exactly as one without the set (`run_eq`), so the set is always that of
the columns. The columns are the names of the fields in the order in which they first came, and the
cells of a row tell all of its record (`lossless_run`).
-/

namespace ScrollExport

/-- The value of a cell, if there is one; null is a value. -/
def Cell.value? : Cell → Option Json
  | .absent => none
  | .value v => some v

namespace Table

/-! ### Order of the columns -/

lemma addColumns_append (columns names names' : List String) :
    addColumns columns (names ++ names') = addColumns (addColumns columns names) names' :=
  List.foldl_append

lemma addColumns_singleton (columns : List String) (name : String) :
    addColumns columns [name] = if name ∈ columns then columns else columns ++ [name] := rfl

/-- Each name stands where it first came. -/
lemma addColumns_nil (names : List String) : addColumns [] names = names.eraseDups := by
  induction names using List.reverseRecOn with
  | nil => rfl
  | append_singleton names name ih =>
    have hm : name ∈ addColumns [] names ↔ name ∈ names := by
      rw [mem_addColumns]
      exact or_iff_right List.not_mem_nil
    rw [List.eraseDups_append, ← ih, addColumns_append, addColumns_singleton]
    by_cases hn : name ∈ names
    · rw [if_pos (hm.2 hn)]
      simp [List.removeAll, hn]
    · rw [if_neg (mt hm.1 hn)]
      simp [List.removeAll, hn, List.eraseDups_cons]

lemma prefix_addColumns (columns names : List String) : columns <+: addColumns columns names := by
  induction names generalizing columns with
  | nil => exact List.prefix_rfl
  | cons name names ih =>
    rw [addColumns, List.foldl_cons, ← addColumns]
    split_ifs with hn
    · exact ih columns
    · exact (List.prefix_append columns [name]).trans (ih _)

lemma columns_extend (t : Table) (rs : List Record) :
    (t.extend rs).columns = addColumns t.columns (rs.flatMap Record.keys) := by
  induction rs generalizing t with
  | nil => rfl
  | cons r rs ih =>
    rw [extend, List.foldl_cons, ← extend, ih, List.flatMap_cons, addColumns_append]
    rfl

lemma prefix_columns_extend (t : Table) (rs : List Record) :
    t.columns <+: (t.extend rs).columns := by
  rw [columns_extend]
  exact prefix_addColumns ..

lemma columns_extend_empty (rs : List Record) :
    (empty.extend rs).columns = (rs.flatMap Record.keys).eraseDups := by
  rw [columns_extend, ← addColumns_nil]
  rfl

/-! ### Cells of a row -/

/-- The cells that are not absent, each with the name of its column. -/
def present (columns : List String) (cells : List Cell) : List (String × Json) :=
  (columns.zip cells).filterMap fun c => c.2.value?.map (c.1, ·)

lemma cell_eq_value_iff {r : Record} {column : String} {v : Json} :
    cell r column = .value v ↔ (column, v) ∈ r.fields := by
  rw [← Keyed.get?_eq_some_iff r.distinct, ← Record.field?, cell]
  cases r.field? column <;> simp

lemma cell_eq_absent_iff {r : Record} {column : String} :
    cell r column = .absent ↔ column ∉ r.keys := by
  rw [Record.keys, ← Keyed.get?_eq_none_iff, ← Record.field?, cell]
  cases r.field? column <;> simp

lemma present_rowCells (t : Table) (r : Record) :
    present t.columns (t.rowCells r) = t.columns.filterMap fun c => (r.field? c).map (c, ·) := by
  have hv : ∀ column, (cell r column).value? = r.field? column := by
    intro column
    rw [cell]
    cases r.field? column <;> rfl
  have hz : t.columns.zip (t.rowCells r) = t.columns.map fun c => (c, cell r c) := by
    simpa [rowCells] using (List.zip_map' : (t.columns.map id).zip (t.columns.map (cell r)) = _)
  rw [present, hz, List.filterMap_map]
  simp only [Function.comp_def, hv]

lemma mem_present_rowCells {t : Table} {r : Record} {column : String} {v : Json} :
    (column, v) ∈ present t.columns (t.rowCells r) ↔
      column ∈ t.columns ∧ (column, v) ∈ r.fields := by
  rw [present_rowCells, List.mem_filterMap, ← Keyed.get?_eq_some_iff r.distinct, ← Record.field?]
  constructor
  · rintro ⟨c, hc, hv⟩
    obtain ⟨v', hv', he⟩ := Option.map_eq_some_iff.1 hv
    obtain ⟨rfl, rfl⟩ := Prod.mk.inj he
    exact ⟨hc, hv'⟩
  · rintro ⟨hc, hv⟩
    exact ⟨column, hc, by rw [hv]; rfl⟩

/-- Nothing of a record is lost in its cells, if all of its names are columns. -/
lemma present_rowCells_perm {t : Table} (hd : t.columns.Nodup) {r : Record}
    (hk : ∀ name ∈ r.keys, name ∈ t.columns) :
    (present t.columns (t.rowCells r)).Perm r.fields := by
  have hp : (present t.columns (t.rowCells r)).Nodup := by
    rw [present_rowCells]
    apply hd.filterMap
    intro c c' f hf hf'
    obtain ⟨v, -, rfl⟩ := Option.map_eq_some_iff.1 hf
    obtain ⟨v', -, he⟩ := Option.map_eq_some_iff.1 hf'
    exact (Prod.mk.inj he).1.symm
  rw [List.perm_ext_iff_of_nodup hp r.distinct.of_map]
  rintro ⟨name, v⟩
  rw [mem_present_rowCells]
  exact and_iff_right_of_imp fun hf => hk name (List.mem_map_of_mem hf)

/-! ### Tables with a set -/

/-- A table beside the set of its columns. -/
structure Indexed where
  columns : List String
  known : Finset String
  rows : List Record

/-- What can be done to a table. -/
inductive Growth where
  | push (r : Record)
  | extend (rs : List Record)

def Growth.records : Growth → List Record
  | .push r => [r]
  | .extend rs => rs

namespace Indexed

def empty : Indexed :=
  ⟨[], ∅, []⟩

/-- Make a name a column, unless it is known. -/
def learn (t : Indexed) (name : String) : Indexed :=
  if name ∈ t.known then t
  else { t with known := insert name t.known, columns := t.columns ++ [name] }

def push (t : Indexed) (r : Record) : Indexed :=
  let t := r.keys.foldl learn t
  { t with rows := t.rows ++ [r] }

def extend (t : Indexed) (rs : List Record) : Indexed :=
  rs.foldl push t

def grow (t : Indexed) : Growth → Indexed
  | .push r => t.push r
  | .extend rs => t.extend rs

/-- Grow from nothing. -/
def run (steps : List Growth) : Indexed :=
  steps.foldl grow empty

def toTable (t : Indexed) : Table :=
  ⟨t.columns, t.rows⟩

/-- The table with the set that its columns are. -/
def ofTable (t : Table) : Indexed :=
  ⟨t.columns, t.columns.toFinset, t.rows⟩

/-! ### The set makes no difference -/

lemma learn_ofTable (t : Table) (name : String) :
    (ofTable t).learn name = ofTable { t with columns := addColumns t.columns [name] } := by
  have hm : name ∈ (ofTable t).known ↔ name ∈ t.columns := List.mem_toFinset
  rw [learn, addColumns_singleton]
  by_cases hn : name ∈ t.columns
  · rw [if_pos (hm.2 hn), if_pos hn]
  · have hs : insert name t.columns.toFinset = (t.columns ++ [name]).toFinset := by
      ext c
      simp only [Finset.mem_insert, List.mem_toFinset, List.mem_append, List.mem_singleton]
      exact or_comm
    rw [if_neg (mt hm.1 hn), if_neg hn]
    simp only [ofTable, hs]

lemma foldl_learn_ofTable (t : Table) (names : List String) :
    names.foldl learn (ofTable t) = ofTable { t with columns := addColumns t.columns names } := by
  induction names generalizing t with
  | nil => rfl
  | cons name names ih =>
    rw [List.foldl_cons, learn_ofTable, ih]
    rfl

lemma push_ofTable (t : Table) (r : Record) : (ofTable t).push r = ofTable (t.push r) := by
  rw [push, foldl_learn_ofTable]
  rfl

lemma extend_ofTable (t : Table) (rs : List Record) :
    (ofTable t).extend rs = ofTable (t.extend rs) := by
  induction rs generalizing t with
  | nil => rfl
  | cons r rs ih =>
    rw [extend, List.foldl_cons, push_ofTable]
    exact ih (t.push r)

lemma grow_ofTable (t : Table) (step : Growth) :
    (ofTable t).grow step = ofTable (t.extend step.records) := by
  cases step with
  | push r => exact push_ofTable t r
  | extend rs => exact extend_ofTable t rs

lemma foldl_grow_ofTable (t : Table) (steps : List Growth) :
    steps.foldl grow (ofTable t) = ofTable (t.extend (steps.flatMap Growth.records)) := by
  induction steps generalizing t with
  | nil => rfl
  | cons step steps ih =>
    rw [List.foldl_cons, grow_ofTable, ih, List.flatMap_cons, extend_append]

theorem run_eq (steps : List Growth) :
    run steps = ofTable (Table.empty.extend (steps.flatMap Growth.records)) :=
  foldl_grow_ofTable Table.empty steps

lemma foldl_extend (t : Indexed) (pages : List (List Record)) :
    pages.foldl extend t = t.extend pages.flatten := by
  rw [extend, List.foldl_flatten]
  rfl

/-- However a table grows, its rows are the records in their order, and its columns are the names of
their fields, each of them once and in the order in which they first came. The set holds the columns
and nothing else. Columns never change their places, and pages can be added one by one or all at
once. The cells of a row are aligned on the columns and tell the fields of its record, the null ones
too: only a field that is missing is absent. -/
theorem lossless_run (steps : List Growth) :
    let t := run steps
    let records := steps.flatMap Growth.records
    t.toTable = Table.empty.extend records ∧ t.rows = records ∧
      t.columns = (records.flatMap Record.keys).eraseDups ∧ t.columns.Nodup ∧
      t.known = t.columns.toFinset ∧
      (∀ pages : List (List Record), pages.foldl extend t = t.extend pages.flatten) ∧
      (∀ step, t.columns <+: (t.grow step).columns) ∧
      ∀ r ∈ t.rows, (t.toTable.rowCells r).length = t.columns.length ∧
        (present t.columns (t.toTable.rowCells r)).Perm r.fields ∧
        ∀ column, (∀ v, cell r column = .value v ↔ (column, v) ∈ r.fields) ∧
          (cell r column = .absent ↔ column ∉ r.keys) := by
  intro t records
  have ht : t = ofTable (Table.empty.extend records) := run_eq steps
  have hd : (Table.empty.extend records).columns.Nodup :=
    nodup_columns_extend List.nodup_nil records
  have hrows : (Table.empty.extend records).rows = records := rows_extend ..
  rw [ht]
  refine ⟨rfl, hrows, columns_extend_empty records, hd, rfl, foldl_extend _, ?_, ?_⟩
  · intro step
    rw [grow_ofTable]
    exact prefix_columns_extend ..
  · intro r hr
    have hr : r ∈ records := hrows ▸ hr
    have hk : ∀ name ∈ r.keys, name ∈ (Table.empty.extend records).columns :=
      fun name hn => mem_columns_extend.2 (.inr ⟨r, hr, hn⟩)
    refine ⟨by simp [rowCells, toTable], present_rowCells_perm hd hk, fun column => ?_⟩
    exact ⟨fun v => cell_eq_value_iff, cell_eq_absent_iff⟩

end Indexed

end Table

end ScrollExport
