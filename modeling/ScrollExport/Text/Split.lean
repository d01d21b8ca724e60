/-!
# Splitting texts

The pieces of a text between separators; a text without separator is one piece.
-/

namespace ScrollExport.Text

def splitChars (isSeparator : Char → Bool) : List Char → List (List Char)
  | [] => [[]]
  | c :: cs =>
    match splitChars isSeparator cs with
    | [] => [[c]]
    | p :: ps => if isSeparator c then [] :: p :: ps else (c :: p) :: ps

theorem splitChars_ne_nil (isSeparator : Char → Bool) (cs : List Char) :
    splitChars isSeparator cs ≠ [] := by
  cases cs with
  | nil => simp [splitChars]
  | cons c cs =>
    simp only [splitChars]
    split
    · simp
    · split <;> simp

variable {isSeparator : Char → Bool}

theorem splitChars_separator {c : Char} (hc : isSeparator c = true) (cs : List Char) :
    splitChars isSeparator (c :: cs) = [] :: splitChars isSeparator cs := by
  have hne := splitChars_ne_nil isSeparator cs
  rw [splitChars]
  split
  · contradiction
  · rename_i h
    rw [if_pos hc, h]

theorem splitChars_append {as bs p : List Char} {ps : List (List Char)}
    (ha : ∀ c ∈ as, isSeparator c = false) (hb : splitChars isSeparator bs = p :: ps) :
    splitChars isSeparator (as ++ bs) = (as ++ p) :: ps := by
  induction as with
  | nil => exact hb
  | cons a as ih =>
    have ⟨h, ha⟩ := List.forall_mem_cons.1 ha
    rw [List.cons_append, splitChars, ih ha]
    simp [h]

/-- The first piece ends at the first separator. -/
theorem splitChars_append_separator {as : List Char} {c : Char}
    (ha : ∀ c ∈ as, isSeparator c = false) (hc : isSeparator c = true) (bs : List Char) :
    splitChars isSeparator (as ++ c :: bs) = as :: splitChars isSeparator bs := by
  rw [splitChars_append ha (splitChars_separator hc bs), List.append_nil]

def split (separator : Char) (s : String) : List String :=
  (splitChars (· = separator) s.toList).map String.ofList

/-- The part before the first character `c` and the part after it, if there is one. -/
def splitFirst (c : Char) : List Char → Option (List Char × List Char)
  | [] => none
  | d :: ds => if d = c then some ([], ds) else (splitFirst c ds).map fun (a, b) => (d :: a, b)

theorem splitFirst_eq_none {c : Char} {cs : List Char} (h : c ∉ cs) : splitFirst c cs = none := by
  induction cs with
  | nil => rfl
  | cons d ds ih =>
    simp only [List.mem_cons, not_or] at h
    rw [splitFirst, if_neg (Ne.symm h.1), ih h.2]
    rfl

theorem splitFirst_append {c : Char} {as : List Char} (ha : c ∉ as) (bs : List Char) :
    splitFirst c (as ++ c :: bs) = some (as, bs) := by
  induction as with
  | nil => simp [splitFirst]
  | cons a as ih =>
    simp only [List.mem_cons, not_or] at ha
    rw [List.cons_append, splitFirst, if_neg (Ne.symm ha.1), ih ha.2]
    rfl

/-- A separator stands before all parts but the first. -/
theorem intercalate_cons {α : Type} (separator : α) (part : List α) (parts : List (List α)) :
    [separator].intercalate (part :: parts) = part ++ parts.flatMap (separator :: ·) := by
  induction parts generalizing part with
  | nil => simp
  | cons next parts ih =>
    rw [List.intercalate_cons_cons, ih]
    simp

end ScrollExport.Text
