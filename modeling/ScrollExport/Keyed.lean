/-!
# Keyed lists

Lists of pairs in the order in which their keys first came. A key that comes again keeps its
place and takes the new value.
-/

namespace ScrollExport.Keyed

variable {κ α : Type} [DecidableEq κ]

def get? (kvs : List (κ × α)) (k : κ) : Option α :=
  match kvs with
  | [] => none
  | (k', v) :: rest => if k = k' then some v else get? rest k

/-- Give `k` the value `v`, in its old place or at the end. -/
def put (kvs : List (κ × α)) (k : κ) (v : α) : List (κ × α) :=
  match kvs with
  | [] => [(k, v)]
  | (k', v') :: rest => if k = k' then (k, v) :: rest else (k', v') :: put rest k v

def erase (kvs : List (κ × α)) (k : κ) : List (κ × α) :=
  kvs.filter fun kv => kv.1 ≠ k

/-- Put all pairs of a list, one after the other. -/
def ofList (kvs : List (κ × α)) : List (κ × α) :=
  kvs.foldl (fun acc kv => put acc kv.1 kv.2) []

@[simp] theorem get?_nil (k : κ) : get? ([] : List (κ × α)) k = none := rfl

theorem get?_cons (k' : κ) (v : α) (rest : List (κ × α)) (k : κ) :
    get? ((k', v) :: rest) k = if k = k' then some v else get? rest k := rfl

theorem get?_eq_none_iff {kvs : List (κ × α)} {k : κ} :
    get? kvs k = none ↔ k ∉ kvs.map Prod.fst := by
  induction kvs with
  | nil => simp
  | cons kv rest ih => grind [get?]

theorem get?_eq_some_iff {kvs : List (κ × α)} (h : (kvs.map Prod.fst).Nodup) {k : κ} {v : α} :
    get? kvs k = some v ↔ (k, v) ∈ kvs := by
  induction kvs with
  | nil => simp
  | cons kv rest ih =>
    obtain ⟨k', v'⟩ := kv
    obtain ⟨hk, h⟩ := List.nodup_cons.1 h
    rw [get?_cons, List.mem_cons, Prod.mk.injEq]
    split
    · rename_i he
      subst he
      have hm : (k, v) ∉ rest := fun hm => hk (List.mem_map.2 ⟨_, hm, rfl⟩)
      simp [hm, eq_comm]
    · rename_i he
      simp [he, ih h]

@[simp] theorem get?_put (kvs : List (κ × α)) (k k' : κ) (v : α) :
    get? (put kvs k v) k' = if k' = k then some v else get? kvs k' := by
  induction kvs with
  | nil => simp [put, get?]
  | cons kv rest ih => grind [put, get?]

theorem keys_put (kvs : List (κ × α)) (k : κ) (v : α) :
    (put kvs k v).map Prod.fst =
      if k ∈ kvs.map Prod.fst then kvs.map Prod.fst else kvs.map Prod.fst ++ [k] := by
  induction kvs with
  | nil => simp [put]
  | cons kv rest ih => grind [put]

theorem nodup_put {kvs : List (κ × α)} (h : (kvs.map Prod.fst).Nodup) (k : κ) (v : α) :
    ((put kvs k v).map Prod.fst).Nodup := by
  rw [keys_put]
  split
  · exact h
  · rename_i hk
    simp only [List.nodup_append, h, true_and]
    exact ⟨by simp, fun a ha b hb => by grind⟩

theorem nodup_ofList (kvs : List (κ × α)) : ((ofList kvs).map Prod.fst).Nodup := by
  have step : ∀ (l acc : List (κ × α)), (acc.map Prod.fst).Nodup →
      ((l.foldl (fun acc kv => put acc kv.1 kv.2) acc).map Prod.fst).Nodup := by
    intro l
    induction l with
    | nil => exact fun acc h => h
    | cons kv rest ih => exact fun acc h => ih _ (nodup_put h _ _)
  exact step kvs [] List.nodup_nil

/-- Pairs with distinct keys are put one after the other. -/
theorem foldl_put_of_nodup (kvs acc : List (κ × α)) (h : ((acc ++ kvs).map Prod.fst).Nodup) :
    kvs.foldl (fun acc kv => put acc kv.1 kv.2) acc = acc ++ kvs := by
  have hput : ∀ (acc : List (κ × α)) (k : κ) (v : α), k ∉ acc.map Prod.fst →
      put acc k v = acc ++ [(k, v)] := by
    intro acc k v hk
    induction acc with
    | nil => rfl
    | cons kv acc ih => grind [put]
  induction kvs generalizing acc with
  | nil => simp
  | cons kv rest ih =>
    obtain ⟨k, v⟩ := kv
    have hk : k ∉ acc.map Prod.fst := by
      rw [List.map_append, List.nodup_append] at h
      exact fun hm => h.2.2 k hm k (by simp) rfl
    rw [List.foldl_cons, hput acc k v hk, ih _ (by simpa using h)]
    simp

theorem ofList_of_nodup {kvs : List (κ × α)} (h : (kvs.map Prod.fst).Nodup) : ofList kvs = kvs :=
  foldl_put_of_nodup kvs [] h

/-- A pair that is put later wins. -/
theorem get?_foldl_put {kvs : List (κ × α)} (h : (kvs.map Prod.fst).Nodup)
    (acc : List (κ × α)) (k : κ) :
    get? (kvs.foldl (fun acc kv => put acc kv.1 kv.2) acc) k = (get? kvs k).or (get? acc k) := by
  induction kvs generalizing acc with
  | nil => rfl
  | cons kv rest ih =>
    obtain ⟨k', v⟩ := kv
    obtain ⟨hk, h⟩ := List.nodup_cons.1 h
    rw [List.foldl_cons, ih h, get?_put, get?_cons]
    split
    · rename_i he
      rw [he, get?_eq_none_iff.2 hk]
      rfl
    · rfl

/-- Of all pairs with a key the last one wins. -/
theorem get?_ofList (kvs : List (κ × α)) (k : κ) :
    get? (ofList kvs) k = (kvs.filter fun kv => kv.1 = k).getLast?.map Prod.snd := by
  have step : ∀ (l acc : List (κ × α)), get? (l.foldl (fun acc kv => put acc kv.1 kv.2) acc) k =
      ((l.filter fun kv => kv.1 = k).getLast?.map Prod.snd).or (get? acc k) := by
    intro l
    induction l with
    | nil => exact fun acc => rfl
    | cons kv rest ih =>
      intro acc
      rw [List.foldl_cons, ih, get?_put, List.filter_cons]
      by_cases hk : kv.1 = k
      · rw [if_pos hk.symm, if_pos (by simpa using hk), List.getLast?_cons]
        cases (rest.filter fun kv => kv.1 = k).getLast? <;> rfl
      · rw [if_neg (Ne.symm hk), if_neg (by simpa using hk)]
  rw [ofList, step, get?_nil, Option.or_none]

theorem mem_put {kvs : List (κ × α)} {k : κ} {v : α} {kv : κ × α} (h : kv ∈ put kvs k v) :
    kv ∈ kvs ∨ kv = (k, v) := by
  induction kvs with
  | nil => simpa [put] using h
  | cons kv' rest ih => grind [put]

/-- No pair of a list that was put together is new. -/
theorem mem_of_mem_ofList {kvs : List (κ × α)} {kv : κ × α} (h : kv ∈ ofList kvs) : kv ∈ kvs := by
  have step : ∀ (l acc : List (κ × α)), kv ∈ l.foldl (fun acc kv => put acc kv.1 kv.2) acc →
      kv ∈ acc ∨ kv ∈ l := by
    intro l
    induction l with
    | nil => exact fun acc h => .inl h
    | cons x rest ih =>
      intro acc h
      rcases ih _ h with h | h
      · rcases mem_put h with h | rfl
        · exact .inl h
        · exact .inr (List.mem_cons_self ..)
      · exact .inr (List.mem_cons_of_mem _ h)
  exact (step kvs [] h).resolve_left List.not_mem_nil

@[simp] theorem get?_erase (kvs : List (κ × α)) (k k' : κ) :
    get? (erase kvs k) k' = if k' = k then none else get? kvs k' := by
  induction kvs with
  | nil => simp [erase, get?]
  | cons kv rest ih => grind [erase, get?]

theorem erase_put (kvs : List (κ × α)) (k k' : κ) (v : α) :
    erase (put kvs k v) k' = if k = k' then erase kvs k' else put (erase kvs k') k v := by
  induction kvs with
  | nil => grind [put, erase]
  | cons kv rest ih => grind [put, erase]

/-- Without the pairs of a key there is nothing of it to put. -/
theorem erase_ofList (kvs : List (κ × α)) (k : κ) :
    erase (ofList kvs) k = ofList (kvs.filter fun kv => kv.1 ≠ k) := by
  have step : ∀ (l acc : List (κ × α)),
      erase (l.foldl (fun acc kv => put acc kv.1 kv.2) acc) k =
        (l.filter fun kv => kv.1 ≠ k).foldl (fun acc kv => put acc kv.1 kv.2) (erase acc k) := by
    intro l
    induction l with
    | nil => exact fun acc => rfl
    | cons kv rest ih =>
      intro acc
      rw [List.foldl_cons, ih, erase_put, List.filter_cons]
      by_cases hk : kv.1 = k
      · rw [if_pos hk, if_neg (by simpa using hk)]
      · rw [if_neg hk, if_pos (by simpa using hk), List.foldl_cons]
  exact step kvs []

theorem nodup_erase {kvs : List (κ × α)} (h : (kvs.map Prod.fst).Nodup) (k : κ) :
    ((erase kvs k).map Prod.fst).Nodup :=
  h.sublist (List.filter_sublist.map _)

end ScrollExport.Keyed
