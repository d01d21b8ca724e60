import Mathlib.Tactic.Common
import ScrollExport.Text.Split

/-!
# Pieces

Joining pieces with a separator and splitting the text at it undo each other, if no piece has the
separator (`splitChars_intercalate`, `intercalate_splitChars`).
-/

namespace ScrollExport.Text

variable {separator : Char} {cs : List Char} {pieces : List (List Char)}

lemma splitChars_of_notMem (h : separator ∉ cs) : splitChars (· = separator) cs = [cs] := by
  have hall : ∀ c ∈ cs, decide (c = separator) = false := by
    intro c hc
    refine decide_eq_false ?_
    rintro rfl
    exact h hc
  have hsplit := splitChars_append hall (show splitChars _ [] = [[]] from rfl)
  rwa [List.append_nil] at hsplit

/-- No piece has a separator. -/
lemma isSeparator_of_mem_splitChars {isSeparator : Char → Bool} :
    ∀ piece ∈ splitChars isSeparator cs, ∀ c ∈ piece, isSeparator c = false := by
  induction cs with
  | nil => simp [splitChars]
  | cons c cs ih =>
    obtain ⟨piece, pieces, hp⟩ := List.exists_cons_of_ne_nil (splitChars_ne_nil isSeparator cs)
    rw [hp] at ih
    obtain ⟨hpiece, hpieces⟩ := List.forall_mem_cons.1 ih
    cases hc : isSeparator c with
    | true =>
      rw [splitChars_separator hc, hp]
      exact List.forall_mem_cons.2 ⟨List.forall_mem_nil _, ih⟩
    | false =>
      have hone : ∀ d ∈ [c], isSeparator d = false := by simpa using hc
      have hsplit := splitChars_append hone hp
      rw [List.singleton_append] at hsplit
      rw [hsplit]
      exact List.forall_mem_cons.2 ⟨List.forall_mem_cons.2 ⟨hc, hpiece⟩, hpieces⟩

/-- A separator stands between the pieces before it and those after it. -/
lemma splitChars_append_cons (separator : Char) (as bs : List Char) :
    splitChars (· = separator) (as ++ separator :: bs) =
      splitChars (· = separator) as ++ splitChars (· = separator) bs := by
  induction as with
  | nil => exact splitChars_separator (decide_eq_true rfl) bs
  | cons a as ih =>
    by_cases ha : a = separator
    · subst ha
      rw [List.cons_append, splitChars_separator (decide_eq_true rfl), ih,
        splitChars_separator (decide_eq_true rfl), List.cons_append]
    · obtain ⟨p, ps, hp⟩ := List.exists_cons_of_ne_nil (splitChars_ne_nil (· = separator) as)
      have hone : ∀ c ∈ [a], decide (c = separator) = false := by simpa using ha
      rw [hp, List.cons_append] at ih
      have hl := splitChars_append hone ih
      have hr := splitChars_append hone hp
      rw [List.singleton_append] at hl hr
      rw [List.cons_append, hl, hr]
      rfl

/-- Pieces without the separator can be told apart in the joined text. -/
theorem splitChars_intercalate (hne : pieces ≠ []) (h : ∀ piece ∈ pieces, separator ∉ piece) :
    splitChars (· = separator) ([separator].intercalate pieces) = pieces := by
  induction pieces with
  | nil => exact absurd rfl hne
  | cons piece pieces ih =>
    obtain ⟨hpiece, h⟩ := List.forall_mem_cons.1 h
    cases pieces with
    | nil =>
      rw [List.intercalate_singleton]
      exact splitChars_of_notMem hpiece
    | cons next pieces =>
      rw [List.intercalate_cons_cons, List.append_assoc, List.singleton_append,
        splitChars_append_cons, splitChars_of_notMem hpiece, ih (by simp) h,
        List.singleton_append]

lemma notMem_of_mem_splitChars : ∀ piece ∈ splitChars (· = separator) cs, separator ∉ piece := by
  intro piece hp hm
  simpa using isSeparator_of_mem_splitChars piece hp separator hm

/-- The pieces of a text, joined, are the text. -/
theorem intercalate_splitChars (separator : Char) (cs : List Char) :
    [separator].intercalate (splitChars (· = separator) cs) = cs := by
  induction cs with
  | nil => rfl
  | cons c cs ih =>
    obtain ⟨piece, pieces, hp⟩ :=
      List.exists_cons_of_ne_nil (splitChars_ne_nil (· = separator) cs)
    rw [hp, intercalate_cons] at ih
    by_cases hc : c = separator
    · subst hc
      rw [splitChars_separator (decide_eq_true rfl), hp, List.intercalate_cons_cons,
        intercalate_cons, ih]
      rfl
    · have hone : ∀ d ∈ [c], decide (d = separator) = false := by simpa using hc
      have hsplit := splitChars_append hone hp
      rw [List.singleton_append] at hsplit
      rw [hsplit, intercalate_cons, List.append_assoc, ih]
      rfl

end ScrollExport.Text
