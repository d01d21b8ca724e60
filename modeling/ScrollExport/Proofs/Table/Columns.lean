import Mathlib.Data.List.Nodup
import ScrollExport.Table

/-!
# Columns of a table

The columns are the names of the fields of the rows, each of them once.
-/

namespace ScrollExport.Table

variable {columns names : List String} {c : String}

/-! ### Adding columns -/

lemma mem_addColumns : c ∈ addColumns columns names ↔ c ∈ columns ∨ c ∈ names := by
  induction names generalizing columns with
  | nil => simp [addColumns]
  | cons name names ih =>
    rw [addColumns, List.foldl_cons, ← addColumns, ih, List.mem_cons]
    split_ifs with hn
    · constructor
      · exact Or.imp_right .inr
      · rintro (hc | rfl | hc)
        · exact .inl hc
        · exact .inl hn
        · exact .inr hc
    · rw [List.mem_append, List.mem_singleton, or_assoc]

lemma nodup_addColumns (h : columns.Nodup) (names : List String) :
    (addColumns columns names).Nodup := by
  induction names generalizing columns with
  | nil => exact h
  | cons name names ih =>
    rw [addColumns, List.foldl_cons, ← addColumns]
    apply ih
    split_ifs with hn
    · exact h
    · exact h.append (List.nodup_singleton name) (by simpa using hn)

/-! ### Columns of the rows -/

variable {t : Table} {rs : List Record}

lemma mem_columns_extend :
    c ∈ (t.extend rs).columns ↔ c ∈ t.columns ∨ ∃ r ∈ rs, c ∈ r.keys := by
  induction rs generalizing t with
  | nil => simp
  | cons r rs ih =>
    rw [extend, List.foldl_cons, ← extend, ih, push, mem_addColumns, or_assoc]
    simp

lemma nodup_columns_extend (h : t.columns.Nodup) (rs : List Record) :
    (t.extend rs).columns.Nodup := by
  induction rs generalizing t with
  | nil => exact h
  | cons r rs ih => exact ih (nodup_addColumns h r.keys)

/-- A name stands once in the columns of its rows, if a row has it. -/
lemma count_columns_extend_empty (rs : List Record) (c : String) :
    (empty.extend rs).columns.count c = if ∃ r ∈ rs, c ∈ r.keys then 1 else 0 := by
  have hm : c ∈ (empty.extend rs).columns ↔ ∃ r ∈ rs, c ∈ r.keys := by
    rw [mem_columns_extend]
    exact or_iff_right List.not_mem_nil
  simp only [(nodup_columns_extend List.nodup_nil rs : (empty.extend rs).columns.Nodup).count, hm]

end ScrollExport.Table
