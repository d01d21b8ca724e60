import Mathlib.Data.List.TakeWhile

/-!
# Spans

What stands at the start of a text as long as its characters pass a test, and what is left when such
characters are dropped from both of its ends.
-/

namespace ScrollExport.Text

variable {test : Char → Bool} {before cs after rest : List Char}

lemma takeWhile_append_of_head? (hc : ∀ c ∈ cs, test c = true)
    (hr : ∀ c ∈ rest.head?, test c = false) : (cs ++ rest).takeWhile test = cs := by
  rw [List.takeWhile_append_of_pos hc]
  cases rest with
  | nil => simp
  | cons c rest => simp [hr c rfl]

lemma dropWhile_append_of_head? (hc : ∀ c ∈ cs, test c = true)
    (hr : ∀ c ∈ rest.head?, test c = false) : (cs ++ rest).dropWhile test = rest := by
  rw [List.dropWhile_append_of_pos hc]
  cases rest with
  | nil => simp
  | cons c rest => simp [hr c rfl]

lemma head?_dropWhile : ∀ c ∈ (cs.dropWhile test).head?, test c = false := by
  intro c hc
  induction cs with
  | nil => cases hc
  | cons d cs ih =>
    by_cases hd : test d = true
    · rw [List.dropWhile_cons_of_pos hd] at hc
      exact ih hc
    · rw [List.dropWhile_cons_of_neg hd] at hc
      obtain rfl : d = c := Option.some.inj hc
      simpa using hd

/-- The characters of a text without those at both ends that pass a test. -/
def strip (test : Char → Bool) (cs : List Char) : List Char :=
  ((cs.dropWhile test).reverse.dropWhile test).reverse

lemma strip_eq_self (hc : ∀ c ∈ cs, test c = false) : strip test cs = cs := by
  have hdrop : ∀ ds : List Char, (∀ c ∈ ds, test c = false) → ds.dropWhile test = ds :=
    fun ds h => dropWhile_append_of_head? (List.forall_mem_nil _) fun c hm =>
      h c (List.mem_of_mem_head? hm)
  rw [strip, hdrop cs hc, hdrop _ fun c h => hc c (List.mem_reverse.1 h), List.reverse_reverse]

/-- What passes the test around a text is no part of what is left of it. -/
lemma strip_around (hb : ∀ c ∈ before, test c = true) (ha : ∀ c ∈ after, test c = true)
    (cs : List Char) : strip test (before ++ (cs ++ after)) = strip test cs := by
  rw [strip, List.dropWhile_append_of_pos hb, List.dropWhile_append]
  by_cases hcs : cs.dropWhile test = []
  · rw [if_pos (by rw [hcs, List.isEmpty_nil]), List.dropWhile_eq_nil_iff.2 ha, strip, hcs]
  · rw [if_neg (by simpa using hcs), List.reverse_append,
      List.dropWhile_append_of_pos fun c hc => ha c (List.mem_reverse.1 hc), strip]

lemma strip_append (hb : ∀ c ∈ before, test c = true) (ha : ∀ c ∈ after, test c = true)
    (hc : ∀ c ∈ cs, test c = false) : strip test (before ++ (cs ++ after)) = cs := by
  rw [strip_around hb ha, strip_eq_self hc]

/-- A text is what is left of it, with characters that pass the test around it. -/
lemma exists_strip (test : Char → Bool) (cs : List Char) :
    ∃ before after, cs = before ++ (strip test cs ++ after) ∧ (∀ c ∈ before, test c = true) ∧
      ∀ c ∈ after, test c = true := by
  let rest := (cs.dropWhile test).reverse
  refine ⟨cs.takeWhile test, (rest.takeWhile test).reverse, ?_,
    fun c h => List.mem_takeWhile_imp h,
    fun c h => List.mem_takeWhile_imp (List.mem_reverse.1 h)⟩
  have hrest : rest.takeWhile test ++ rest.dropWhile test = rest := List.takeWhile_append_dropWhile
  rw [strip, ← List.reverse_append, hrest, List.reverse_reverse, List.takeWhile_append_dropWhile]

end ScrollExport.Text
