import ScrollExport.Proofs.Json.Numeral

/-!
# Tokens of texts

How a text is cut into tokens, piece by piece: `Spells cs ts` says that `cs` is the tokens `ts`
wherever it stands, as long as nothing goes on with a numeral at its end.
-/

namespace ScrollExport.Json

variable {c : Char} {cs rest : List Char}

/-! ### Strings -/

lemma hexValue?_hexDigit : ∀ n < 16, hexValue? (hexDigit n) = some n := by
  decide

lemma scanPieces_of_plain (hq : c ≠ '"') (hb : c ≠ '\\') (hc : ¬ c.toNat < 0x20) :
    scanPieces (c :: rest) = (scanPieces rest).map fun x => (.char c :: x.1, x.2) := by
  rw [scanPieces.eq_def]
  split
  case h_5 heq =>
    obtain ⟨rfl, rfl⟩ := List.cons.inj heq
    rw [if_neg (by simp only [hb, or_false]; exact hc)]
  all_goals simp_all

/-- A control without a short name is escaped by its number. -/
lemma scanPieces_of_unit {n : Nat} (hn : n < 0x20) :
    scanPieces ('\\' :: 'u' :: '0' :: '0' :: hexDigit (n / 16) :: hexDigit (n % 16) :: rest) =
      (scanPieces rest).map fun x => (.unit n :: x.1, x.2) := by
  have hh := hexValue?_hexDigit (n / 16) (by omega)
  have hl := hexValue?_hexDigit (n % 16) (by omega)
  have h0 : hexValue? '0' = some 0 := rfl
  have hn : 16 * (n / 16) + n % 16 = n := by omega
  simp [scanPieces, hexNumber?, h0, hh, hl, hn]

lemma joinPieces?_of_unit {ps : List Piece} (hc : c.toNat < 0x20) :
    joinPieces? (.unit c.toNat :: ps) = (joinPieces? ps).map (c :: ·) := by
  have hh : isHighSurrogate c.toNat = false := by simp [isHighSurrogate]; omega
  have hl : isLowSurrogate c.toNat = false := by simp [isLowSurrogate]; omega
  rw [joinPieces?.eq_def]
  simp only [hh, hl, Bool.false_eq_true, if_false, Char.ofNat_toNat]

/-- Each character is written as one piece of a string. -/
lemma exists_piece (c : Char) : ∃ p : Piece,
    (∀ rest, scanPieces (escapeChar c ++ rest) =
      (scanPieces rest).map fun x => (p :: x.1, x.2)) ∧
    ∀ ps, joinPieces? (p :: ps) = (joinPieces? ps).map (c :: ·) := by
  unfold escapeChar
  split
  case h_8 hq hb _ _ _ _ _ =>
    split_ifs with hc
    · exact ⟨.unit c.toNat, fun rest => scanPieces_of_unit hc, fun ps => joinPieces?_of_unit hc⟩
    · exact ⟨.char c, fun rest => scanPieces_of_plain hq hb hc, fun ps => rfl⟩
  all_goals exact ⟨.char _, fun rest => by simp [scanPieces, escaped?], fun ps => rfl⟩

lemma exists_pieces (cs : List Char) : ∃ ps : List Piece,
    (∀ rest, scanPieces (cs.flatMap escapeChar ++ '"' :: rest) = some (ps, rest)) ∧
    joinPieces? ps = some cs := by
  induction cs with
  | nil => exact ⟨[], fun rest => rfl, rfl⟩
  | cons c cs ih =>
    obtain ⟨ps, hs, hj⟩ := ih
    obtain ⟨p, hp, hp'⟩ := exists_piece c
    refine ⟨p :: ps, fun rest => ?_, ?_⟩
    · rw [List.flatMap_cons, List.append_assoc, hp, hs]
      rfl
    · rw [hp', hj]
      rfl

lemma next?_stringChars (s : String) (rest : List Char) :
    Token.next? (stringChars s ++ rest) = some (.text (some s), rest) := by
  obtain ⟨ps, hs, hj⟩ := exists_pieces s.toList
  have hn : Token.next? ('"' :: (s.toList.flatMap escapeChar ++ '"' :: rest)) =
      (scanPieces (s.toList.flatMap escapeChar ++ '"' :: rest)).map fun x =>
        (.text ((joinPieces? x.1).map String.ofList), x.2) := rfl
  simp [stringChars, hn, hs, hj]

/-! ### Numerals -/

lemma next?_of_digit_or_minus (hc : Number.isDigit c = true ∨ c = '-') :
    Token.next? (c :: cs) = (Numeral.scan (c :: cs)).map fun x => (.number x.1, x.2) := by
  rw [Token.next?.eq_def]
  split
  case h_11 => rfl
  all_goals
    rename_i heq
    obtain ⟨rfl, -⟩ := List.cons.inj heq
    exact absurd hc (by decide)

lemma Numeral.IsWellFormed.exists_chars {n : Numeral} (hn : n.IsWellFormed) :
    ∃ c cs, n.chars = c :: cs ∧ (Number.isDigit c = true ∨ c = '-') := by
  obtain ⟨d, ds, hd⟩ := List.exists_cons_of_ne_nil hn.whole.1
  have hi : Number.isDigit d = true := hn.whole.2 d (hd ▸ List.mem_cons_self ..)
  cases hs : n.negative with
  | true =>
    refine ⟨'-', n.whole ++ fractionChars n.fraction ++ exponentChars n.exponent, ?_, .inr rfl⟩
    rw [chars, hs]
    rfl
  | false =>
    refine ⟨d, ds ++ fractionChars n.fraction ++ exponentChars n.exponent, ?_, .inl hi⟩
    rw [chars, hs, hd]
    rfl

/-! ### Texts -/

lemma tokens?_of_isSpace (hc : isSpace c = true) : tokens? (c :: cs) = tokens? cs := by
  rw [tokens?, if_pos hc]

lemma tokens?_of_next? {t : Token} (hc : isSpace c = false)
    (h : Token.next? (c :: cs) = some (t, rest)) :
    tokens? (c :: cs) = (tokens? rest).map (t :: ·) := by
  rw [tokens?, if_neg (by simp [hc])]
  split <;> simp_all

/-- The text is these tokens, whatever follows it that ends a numeral. -/
def Spells (cs : List Char) (ts : List Token) : Prop :=
  ∀ rest, Numeral.Ends rest → tokens? (cs ++ rest) = (tokens? rest).map (ts ++ ·)

namespace Spells

variable {as bs : List Char} {ts us : List Token} {t : Token}

lemma tokens?_eq (h : Spells cs ts) : tokens? cs = some ts := by
  simpa [tokens?] using h [] Numeral.ends_nil

lemma nil : Spells [] [] := by
  intro rest _
  simp

lemma append (ha : Spells as ts) (hb : Spells bs us) (he : Numeral.Ends bs) :
    Spells (as ++ bs) (ts ++ us) := by
  intro rest hr
  have hbr : Numeral.Ends (bs ++ rest) := by
    cases bs with
    | nil => exact hr
    | cons c bs => exact he
  rw [List.append_assoc, ha _ hbr, hb _ hr, Option.map_map]
  simp [Function.comp_def]

/-- A sign of its own may stand before anything. -/
lemma cons (hc : isSpace c = false) (ht : ∀ rest, Token.next? (c :: rest) = some (t, rest))
    (hb : Spells bs us) : Spells (c :: bs) (t :: us) := by
  intro rest hr
  rw [List.cons_append, tokens?_of_next? hc (ht _), hb _ hr, Option.map_map]
  rfl

lemma spaces_append (ha : ∀ c ∈ as, isSpace c = true) (hb : Spells bs us) :
    Spells (as ++ bs) us := by
  induction as with
  | nil => exact hb
  | cons c as ih =>
    obtain ⟨hc, ha⟩ := List.forall_mem_cons.1 ha
    intro rest hr
    rw [List.cons_append, List.cons_append, tokens?_of_isSpace hc]
    exact ih ha rest hr

lemma string_append (s : String) (hb : Spells bs us) :
    Spells (stringChars s ++ bs) (.text (some s) :: us) := by
  intro rest hr
  have hs : isSpace '"' = false := rfl
  rw [List.append_assoc]
  refine (tokens?_of_next? hs (next?_stringChars s _)).trans ?_
  rw [hb _ hr, Option.map_map]
  rfl

/-- A token alone. -/
lemma of_next? (hc : isSpace c = false)
    (ht : ∀ rest, Numeral.Ends rest → Token.next? (c :: cs ++ rest) = some (t, rest)) :
    Spells (c :: cs) [t] := by
  intro rest hr
  exact tokens?_of_next? hc (ht rest hr)

lemma numeral {n : Numeral} (hn : n.IsWellFormed) : Spells n.chars [.number n] := by
  obtain ⟨c, cs, hcs, hc⟩ := hn.exists_chars
  have hs : isSpace c = false := by
    by_contra h
    simp only [isSpace, Bool.not_eq_false, Bool.or_eq_true, decide_eq_true_eq] at h
    rcases h with ((rfl | rfl) | rfl) | rfl <;> exact absurd hc (by decide)
  rw [hcs]
  refine of_next? hs fun rest hr => ?_
  rw [List.cons_append, next?_of_digit_or_minus hc, ← List.cons_append, ← hcs,
    Numeral.scan_chars hn hr]
  rfl

end Spells

end ScrollExport.Json
