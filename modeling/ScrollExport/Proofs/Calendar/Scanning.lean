import ScrollExport.Calendar.Instant
import ScrollExport.Proofs.Json.Numeral
import ScrollExport.Proofs.Number.Decimal

/-!
# Scanning instants

The numbers of a timestamp as they are written, and what each scanner takes from the start of a
text. A number goes on as long as there are digits, up to a greatest length.
-/

namespace ScrollExport.Instant

open Number Text
open Json.Numeral (IsDigits)

variable {cs rest rest' ds : List Char} {c : Char} {n least most width : Nat}

/-! ### Digits -/

/-- A text that does not go on with digits before it. -/
def EndsDigits (rest : List Char) : Prop :=
  ∀ c ∈ rest.head?, isDigit c = false

@[simp] lemma endsDigits_nil : EndsDigits [] := by
  simp [EndsDigits]

@[simp] lemma endsDigits_cons : EndsDigits (c :: rest) ↔ isDigit c = false := by
  simp [EndsDigits]

lemma isBlank_eq_false_of_isDigit (h : isDigit c = true) : isBlank c = false := by
  have hn := toNat_of_isDigit h
  simp [isBlank]
  omega

/-- Every text starts with digits, maybe none, up to a greatest number of them. -/
lemma exists_digits (most : Nat) (cs : List Char) :
    ∃ ds rest, cs = ds ++ rest ∧ (∀ c ∈ ds, isDigit c = true) ∧ ds.length ≤ most ∧
      (ds.length < most → EndsDigits rest) := by
  induction cs generalizing most with
  | nil => exact ⟨[], [], by simp⟩
  | cons c cs ih =>
    by_cases hc : isDigit c = true
    · cases most with
      | zero => exact ⟨[], c :: cs, by simp⟩
      | succ most =>
        obtain ⟨ds, rest, rfl, hd, hl, hr⟩ := ih most
        exact ⟨c :: ds, rest, rfl, List.forall_mem_cons.2 ⟨hc, hd⟩, by simpa using hl,
          by simpa using hr⟩
    · exact ⟨[], c :: cs, rfl, by simp, by simp, fun _ => by simpa using hc⟩

lemma takeWhile_take_digits (hd : ∀ c ∈ ds, isDigit c = true) (hl : ds.length ≤ most)
    (hr : ds.length < most → EndsDigits rest) :
    ((ds ++ rest).take most).takeWhile isDigit = ds := by
  rw [List.take_append, List.take_of_length_le hl]
  refine takeWhile_append_of_head? hd fun c hc => ?_
  rcases Nat.lt_or_eq_of_le hl with h | h
  · cases rest with
    | nil => simp at hc
    | cons c' rest =>
      obtain ⟨n, hn⟩ : ∃ n, most - ds.length = n + 1 := ⟨most - ds.length - 1, by omega⟩
      obtain rfl : c' = c := by simpa [hn] using hc
      exact hr h c' rfl
  · simp [h] at hc

lemma scanNumber_digits (hd : ∀ c ∈ ds, isDigit c = true) (hl : ds.length ≤ most)
    (hr : ds.length < most → EndsDigits rest) :
    scanNumber least most (ds ++ rest) =
      if ds.length < least then none else some (ofDigits ds, rest) := by
  simp only [scanNumber, takeWhile_take_digits hd hl hr, List.drop_left]

lemma exists_of_scanNumber (h : scanNumber least most cs = some (n, rest)) :
    ∃ ds, cs = ds ++ rest ∧ (∀ c ∈ ds, isDigit c = true) ∧ least ≤ ds.length ∧
      ds.length ≤ most ∧ ofDigits ds = n := by
  obtain ⟨ds, rest', rfl, hd, hl, hr⟩ := exists_digits most cs
  rw [scanNumber_digits hd hl hr] at h
  split_ifs at h with hleast
  obtain ⟨rfl, rfl⟩ : ofDigits ds = n ∧ rest' = rest := by simpa using h
  exact ⟨ds, rfl, hd, Nat.not_lt.1 hleast, hl, rfl⟩

lemma scanChar_eq_some_iff : scanChar c cs = some rest ↔ cs = c :: rest := by
  cases cs with
  | nil => simp [scanChar]
  | cons c' cs =>
    simp only [scanChar, List.cons.injEq]
    split_ifs with h <;> simp [h]

/-! ### Numbers with what stands before them -/

/-- A number as it is written: blanks, a sign if there is one, and digits. -/
structure Figure where
  blanks : List Char
  sign : Option Char
  digits : List Char

namespace Figure

variable {f f' : Figure}

def chars (f : Figure) : List Char :=
  f.blanks ++ (f.sign.toList ++ f.digits)

def number (f : Figure) : Nat :=
  ofDigits f.digits

def signed (f : Figure) : Int :=
  if f.sign = some '-' then -f.number else f.number

structure IsWellFormed (f : Figure) : Prop where
  blanks : ∀ c ∈ f.blanks, isBlank c = true
  sign : ∀ c ∈ f.sign, c = '+' ∨ c = '-'
  digits : IsDigits f.digits

/-- Four digits at most, or any number of them after a sign. -/
def IsYear (f : Figure) : Prop :=
  f.IsWellFormed ∧ (f.sign = none → f.digits.length ≤ 4)

/-- One digit or two, after any blanks. -/
def IsField (f : Figure) : Prop :=
  f.IsWellFormed ∧ f.sign = none ∧ f.digits.length ≤ 2

/-- A number of digits, and nothing before them. -/
def IsExact (width : Nat) (f : Figure) : Prop :=
  f.IsWellFormed ∧ f.blanks = [] ∧ f.sign = none ∧ f.digits.length = width

/-- The blanks of a number end where its sign or its digits start. -/
lemma IsWellFormed.dropWhile_isBlank (h : f.IsWellFormed) (rest : List Char) :
    (f.chars ++ rest).dropWhile isBlank = f.sign.toList ++ (f.digits ++ rest) := by
  obtain ⟨hb, hs, hne, hd⟩ := h
  obtain ⟨blanks, sign, digits⟩ := f
  simp only [chars, List.append_assoc] at *
  rw [List.dropWhile_append_of_pos hb]
  cases sign with
  | none =>
    obtain ⟨c, ds, rfl⟩ := List.exists_cons_of_ne_nil hne
    simp [isBlank_eq_false_of_isDigit (hd c (by simp))]
  | some c =>
    obtain rfl | rfl : c = '+' ∨ c = '-' := hs c rfl
    · rfl
    · rfl

/-- A number that is followed by something else is known from the text. -/
lemma IsWellFormed.append_inj (h : f.IsWellFormed) (h' : f'.IsWellFormed) (hr : EndsDigits rest)
    (hr' : EndsDigits rest') (he : f.chars ++ rest = f'.chars ++ rest') :
    f = f' ∧ rest = rest' := by
  have hdrop : f.sign.toList ++ (f.digits ++ rest) = f'.sign.toList ++ (f'.digits ++ rest') := by
    rw [← h.dropWhile_isBlank, ← h'.dropWhile_isBlank, he]
  obtain ⟨blanks, sign, digits⟩ := f
  obtain ⟨blanks', sign', digits'⟩ := f'
  obtain ⟨-, hs, hne, hd⟩ := h
  obtain ⟨-, hs', hne', hd'⟩ := h'
  have hblanks : blanks = blanks' := by
    simp only [chars, List.append_assoc, hdrop] at he
    exact List.append_cancel_right he
  have hsign : sign = sign' ∧ digits ++ rest = digits' ++ rest' := by
    obtain ⟨c, ds, rfl⟩ := List.exists_cons_of_ne_nil hne
    obtain ⟨c', ds', rfl⟩ := List.exists_cons_of_ne_nil hne'
    have hc := hd c (by simp)
    have hc' := hd' c' (by simp)
    cases sign with
    | none =>
      cases sign' with
      | none => exact ⟨rfl, hdrop⟩
      | some x =>
        obtain ⟨rfl, -⟩ := List.cons.inj hdrop
        rcases hs' c rfl with rfl | rfl <;> cases hc
    | some x =>
      cases sign' with
      | none =>
        obtain ⟨rfl, -⟩ := List.cons.inj hdrop
        rcases hs x rfl with rfl | rfl <;> cases hc'
      | some x' =>
        obtain ⟨rfl, hrest⟩ := List.cons.inj hdrop
        exact ⟨rfl, hrest⟩
  obtain ⟨rfl, hdigits⟩ := hsign
  have htake := congrArg (List.takeWhile isDigit) hdigits
  rw [takeWhile_append_of_head? hd hr, takeWhile_append_of_head? hd' hr'] at htake
  obtain rfl : digits = digits' := htake
  exact ⟨by rw [hblanks], List.append_cancel_left hdigits⟩

lemma IsExact.isField (h : f.IsExact 2) : f.IsField :=
  ⟨h.1, h.2.2.1, Nat.le_of_eq h.2.2.2⟩

lemma IsExact.isYear (h : f.IsExact 4) : f.IsYear :=
  ⟨h.1, fun _ => Nat.le_of_eq h.2.2.2⟩

lemma IsExact.signed (h : f.IsExact width) : f.signed = f.number := by
  rw [Figure.signed, h.2.2.1, if_neg (by simp)]

/-! ### Scanning numbers -/

lemma scanNumber_chars (h : f.IsExact width) (rest : List Char) :
    scanNumber width width (f.chars ++ rest) = some (f.number, rest) := by
  obtain ⟨⟨-, -, -, hd⟩, hb, hs, hl⟩ := h
  rw [chars, hb, hs, Option.toList_none, List.nil_append, List.nil_append,
    scanNumber_digits hd (Nat.le_of_eq hl) (by omega), if_neg (by omega), number]

lemma isExact_mk (hw : 0 < width) (hd : ∀ c ∈ ds, isDigit c = true) (hl : ds.length = width) :
    IsExact width ⟨[], none, ds⟩ :=
  ⟨⟨by simp, by simp, List.ne_nil_of_length_pos (hl ▸ hw), hd⟩, rfl, rfl, hl⟩

lemma exists_of_scanNumber (hw : 0 < width) (h : scanNumber width width cs = some (n, rest)) :
    ∃ f : Figure, f.IsExact width ∧ cs = f.chars ++ rest ∧ f.number = n := by
  obtain ⟨ds, rfl, hd, hleast, hmost, rfl⟩ := Instant.exists_of_scanNumber h
  exact ⟨_, isExact_mk hw hd (Nat.le_antisymm hmost hleast), rfl, rfl⟩

/-- Whatever stands before the digits that are scanned, they make a number with it. -/
lemma exists_of_signed {blanks body : List Char} (hb : ∀ c ∈ blanks, isBlank c = true)
    (sign : Option Char) (hs : ∀ c ∈ sign, c = '+' ∨ c = '-')
    (h : scanNumber 1 most body = some (n, rest)) :
    ∃ f : Figure, f.IsWellFormed ∧ f.sign = sign ∧ f.digits.length ≤ most ∧
      blanks ++ (sign.toList ++ body) = f.chars ++ rest ∧ f.number = n := by
  obtain ⟨ds, rfl, hd, hleast, hmost, rfl⟩ := Instant.exists_of_scanNumber h
  refine ⟨⟨blanks, sign, ds⟩, ⟨hb, hs, ?_, hd⟩, rfl, hmost, by simp [chars], rfl⟩
  rintro rfl
  simp at hleast

lemma exists_blanks (cs : List Char) :
    ∃ blanks body, cs = blanks ++ body ∧ (∀ c ∈ blanks, isBlank c = true) ∧
      cs.dropWhile isBlank = body :=
  ⟨_, _, (List.takeWhile_append_dropWhile (p := isBlank)).symm,
    List.all_eq_true.1 (List.all_takeWhile ..), rfl⟩

lemma scanField_chars (h : f.IsField) (hr : EndsDigits rest) :
    scanField (f.chars ++ rest) = some (f.number, rest) := by
  obtain ⟨hf, hs, hl⟩ := h
  have hne := List.length_pos_iff.2 hf.digits.1
  rw [scanField, hf.dropWhile_isBlank, hs, Option.toList_none, List.nil_append,
    scanNumber_digits hf.digits.2 hl fun _ => hr, if_neg (by omega), number]

lemma exists_of_scanField (h : scanField cs = some (n, rest)) :
    ∃ f : Figure, f.IsField ∧ cs = f.chars ++ rest ∧ f.number = n := by
  obtain ⟨blanks, body, hcs, hb, hbody⟩ := exists_blanks cs
  rw [scanField, hbody] at h
  obtain ⟨f, hf, hs, hl, he, hn⟩ := exists_of_signed hb none (by simp) h
  exact ⟨f, ⟨hf, hs, hl⟩, hcs.trans he, hn⟩

/-! ### Scanning years -/

lemma scanYear_chars (h : f.IsYear) (hr : EndsDigits rest) :
    scanYear (f.chars ++ rest) = some (f.signed, rest) := by
  obtain ⟨hf, hl⟩ := h
  have hpos := List.length_pos_iff.2 hf.digits.1
  have hscan : ∀ most, f.digits.length ≤ most →
      scanNumber 1 most (f.digits ++ rest) = some (f.number, rest) := by
    intro most hm
    rw [scanNumber_digits hf.digits.2 hm fun _ => hr, if_neg (by omega), number]
  rw [scanYear, hf.dropWhile_isBlank]
  cases hsign : f.sign with
  | none =>
    obtain ⟨c, ds, he⟩ := List.exists_cons_of_ne_nil hf.digits.1
    have hc : isDigit c = true := hf.digits.2 c (by simp [he])
    have h4 := hscan 4 (hl hsign)
    rw [he, List.cons_append] at h4
    rw [Option.toList_none, List.nil_append, he, List.cons_append]
    split
    · rename_i heq
      obtain ⟨rfl, -⟩ := List.cons.inj heq
      cases hc
    · rename_i heq
      obtain ⟨rfl, -⟩ := List.cons.inj heq
      cases hc
    · simp [h4, signed, hsign]
  | some c =>
    have hlong := hscan (f.digits ++ rest).length (by simp)
    obtain rfl | rfl : c = '+' ∨ c = '-' := hf.sign c hsign
    · simp only [Option.toList_some, List.singleton_append, hlong]
      simp [signed, hsign]
    · simp only [Option.toList_some, List.singleton_append, hlong]
      simp [signed, hsign]

lemma exists_of_scanYear {year : Int} (h : scanYear cs = some (year, rest)) :
    ∃ f : Figure, f.IsYear ∧ cs = f.chars ++ rest ∧ f.signed = year := by
  obtain ⟨blanks, body, hcs, hb, hbody⟩ := exists_blanks cs
  rw [scanYear, hbody] at h
  split at h
  · obtain ⟨⟨n, _⟩, hn, hy⟩ := Option.map_eq_some_iff.1 h
    obtain ⟨rfl, rfl⟩ := Prod.mk.inj hy
    obtain ⟨f, hf, hs, -, he, rfl⟩ := exists_of_signed hb (some '-') (by simp) hn
    exact ⟨f, ⟨hf, by simp [hs]⟩, hcs.trans he, by simp [signed, hs]⟩
  · obtain ⟨⟨n, _⟩, hn, hy⟩ := Option.map_eq_some_iff.1 h
    obtain ⟨rfl, rfl⟩ := Prod.mk.inj hy
    obtain ⟨f, hf, hs, -, he, rfl⟩ := exists_of_signed hb (some '+') (by simp) hn
    exact ⟨f, ⟨hf, by simp [hs]⟩, hcs.trans he, by simp [signed, hs]⟩
  · obtain ⟨⟨n, _⟩, hn, hy⟩ := Option.map_eq_some_iff.1 h
    obtain ⟨rfl, rfl⟩ := Prod.mk.inj hy
    obtain ⟨f, hf, hs, hl, he, rfl⟩ := exists_of_signed hb none (by simp) hn
    exact ⟨f, ⟨hf, fun _ => hl⟩, hcs.trans he, by simp [signed, hs]⟩

end Figure

end ScrollExport.Instant
