import Mathlib.Tactic.Common
import ScrollExport.Config.Value
import ScrollExport.Keyed

/-!
# Sorted entries

Entries are put in the order of their keys. Entries of different keys can be put in either order,
and of two entries of one key the later one counts. What is done with all entries in turn can be
done last with one of them (`foldl_eq_of_mem`).
-/

namespace ScrollExport.Config

namespace Entries

/-- The keys come in strictly increasing order. -/
def IsSorted (es : Entries) : Prop :=
  es.Pairwise fun a b => a.1 < b.1

lemma put_put (es : Entries) (key : String) (v w : Value) :
    (es.put key v).put key w = es.put key w := by
  induction es with
  | nil => simp [put]
  | cons e es ih => grind [put]

lemma put_comm (es : Entries) {key key' : String} (h : key ≠ key') (v w : Value) :
    (es.put key v).put key' w = (es.put key' w).put key v := by
  induction es with
  | nil => grind [put]
  | cons e es ih => grind [put]

lemma mem_put {es : Entries} {key : String} {v : Value} {e : String × Value}
    (h : e ∈ es.put key v) : e = (key, v) ∨ e ∈ es := by
  induction es with
  | nil => simpa [put] using h
  | cons e' es ih => grind [put]

lemma isSorted_put {es : Entries} (hs : es.IsSorted) (key : String) (v : Value) :
    (es.put key v).IsSorted := by
  induction es with
  | nil => simp [IsSorted, put]
  | cons e es ih =>
    obtain ⟨he, hes⟩ := List.pairwise_cons.1 hs
    obtain ⟨k, w⟩ := e
    rw [put]
    split_ifs with hk hlt
    · subst hk
      exact List.pairwise_cons.2 ⟨he, hes⟩
    · refine List.pairwise_cons.2 ⟨?_, hs⟩
      intro e hm
      rcases List.mem_cons.1 hm with rfl | hm
      · exact hlt
      · exact String.lt_trans hlt (he e hm)
    · refine List.pairwise_cons.2 ⟨?_, ih hes⟩
      intro e hm
      rcases mem_put hm with rfl | hm
      · grind
      · exact he e hm

/-- An entry whose key comes after all others is put at the end. -/
lemma put_eq_append {es : Entries} {key : String} (h : ∀ e ∈ es, e.1 < key) (v : Value) :
    es.put key v = es ++ [(key, v)] := by
  induction es with
  | nil => rfl
  | cons e es ih =>
    obtain ⟨he, hes⟩ := List.forall_mem_cons.1 h
    obtain ⟨k, w⟩ := e
    have hne : key ≠ k := by
      rintro rfl
      exact String.lt_irrefl key he
    rw [put, if_neg hne, if_neg (String.lt_asymm he), ih hes]
    rfl

lemma get?_eq_none_of_forall_ne {es : Entries} {key : String} (h : ∀ e ∈ es, e.1 ≠ key) :
    es.get? key = none := by
  induction es with
  | nil => rfl
  | cons e es ih =>
    obtain ⟨he, hes⟩ := List.forall_mem_cons.1 h
    rw [get?, if_neg he.symm, ih hes]

lemma mem_of_get? {es : Entries} {key : String} {v : Value} (h : es.get? key = some v) :
    (key, v) ∈ es := by
  induction es with
  | nil => cases h
  | cons e es ih =>
    obtain ⟨k, w⟩ := e
    rw [get?] at h
    split_ifs at h with hk
    · obtain rfl := Option.some.inj h
      subst hk
      exact List.mem_cons_self ..
    · exact List.mem_cons_of_mem _ (ih h)

lemma nodup_keys {es : Entries} (hs : es.IsSorted) : (es.map Prod.fst).Nodup := by
  refine List.pairwise_map.2 (hs.imp ?_)
  rintro e e' hlt heq
  rw [heq] at hlt
  exact String.lt_irrefl _ hlt

lemma mem_put_self (es : Entries) (key : String) (v : Value) : (key, v) ∈ es.put key v :=
  mem_of_get? (by rw [get?_put, if_pos rfl])

lemma erase_put (es : Entries) (key : String) (v : Value) :
    Keyed.erase (es.put key v) key = Keyed.erase es key := by
  induction es with
  | nil => simp [put, Keyed.erase]
  | cons e es ih => grind [put, Keyed.erase]

end Entries

/-! ### Acting in turn -/

section Acting

variable {κ α β : Type} {f : β → κ × α → β} {key : κ} {v : α}

/-- An act that can be done after each other one can be done last. -/
lemma foldl_act (es : List (κ × α))
    (h : ∀ e ∈ es, ∀ a, f (f a (key, v)) e = f (f a e) (key, v)) (a : β) :
    es.foldl f (f a (key, v)) = f (es.foldl f a) (key, v) := by
  induction es generalizing a with
  | nil => rfl
  | cons e es ih =>
    obtain ⟨he, hes⟩ := List.forall_mem_cons.1 h
    rw [List.foldl_cons, List.foldl_cons, he, ih hes]

/-- Among distinct keys, the act of one can be done last if it can be done after that of each
other key. -/
lemma foldl_eq_of_mem [DecidableEq κ] {es : List (κ × α)} (hn : (es.map Prod.fst).Nodup)
    (hm : (key, v) ∈ es)
    (h : ∀ e ∈ es, e.1 ≠ key → ∀ a, f (f a (key, v)) e = f (f a e) (key, v)) (a : β) :
    es.foldl f a = f ((Keyed.erase es key).foldl f a) (key, v) := by
  induction es generalizing a with
  | nil => cases hm
  | cons e es ih =>
    obtain ⟨hk, hn⟩ := List.nodup_cons.1 hn
    obtain ⟨he, hes⟩ := List.forall_mem_cons.1 h
    rcases List.mem_cons.1 hm with rfl | hm
    · have hne : ∀ e ∈ es, e.1 ≠ key := by
        rintro e hmem rfl
        exact hk (List.mem_map.2 ⟨e, hmem, rfl⟩)
      have herase : Keyed.erase ((key, v) :: es) key = es := by
        rw [Keyed.erase, List.filter_cons_of_neg (by simp),
          List.filter_eq_self.2 fun e hmem => by simpa using hne e hmem]
      rw [herase, List.foldl_cons, foldl_act es fun e hmem => hes e hmem (hne e hmem)]
    · have hne : e.1 ≠ key := by
        rintro rfl
        exact hk (List.mem_map.2 ⟨_, hm, rfl⟩)
      have herase : Keyed.erase (e :: es) key = e :: Keyed.erase es key :=
        List.filter_cons_of_pos (by simpa using hne)
      rw [herase, List.foldl_cons, List.foldl_cons, ih hn hm hes]

/-- Acting with one pair more, in any place, is acting with it last, if its act can be done after
that of each other key and takes the place of an earlier one of its own key. -/
lemma foldl_eq_of_erase_eq [DecidableEq κ] {es es' : List (κ × α)}
    (hn : (es.map Prod.fst).Nodup) (hn' : (es'.map Prod.fst).Nodup) (hm : (key, v) ∈ es')
    (herase : Keyed.erase es' key = Keyed.erase es key)
    (hother : ∀ e ∈ es, e.1 ≠ key → ∀ w a,
      f (f a (key, w)) e = f (f a e) (key, w))
    (hsame : ∀ w a, f (f a (key, w)) (key, v) = f a (key, v)) (a : β) :
    es'.foldl f a = f (es.foldl f a) (key, v) := by
  have hother' : ∀ e ∈ es', e.1 ≠ key → e ∈ es := by
    intro e he hk
    have hmem : e ∈ Keyed.erase es' key := List.mem_filter.2 ⟨he, by simpa using hk⟩
    rw [herase] at hmem
    exact (List.mem_filter.1 hmem).1
  rw [foldl_eq_of_mem hn' hm fun e he hk => hother e (hother' e he hk) hk v, herase]
  cases hget : Keyed.get? es key with
  | none =>
    have hself : Keyed.erase es key = es := by
      refine List.filter_eq_self.2 fun e he => ?_
      have hk : e.1 ≠ key := by
        rintro rfl
        exact Keyed.get?_eq_none_iff.1 hget (List.mem_map.2 ⟨e, he, rfl⟩)
      simpa using hk
    rw [hself]
  | some w =>
    rw [foldl_eq_of_mem hn ((Keyed.get?_eq_some_iff hn).1 hget) fun e he hk => hother e he hk w,
      hsame]

end Acting

end ScrollExport.Config
