import Mathlib.Data.List.Induction
import Mathlib.Tactic.Ring
import ScrollExport.Number.Digits

/-!
# Decimal numbers

Every number is the one that its digits write (`ofDigits_natChars`), and digits without a leading
zero are those of the number that they write (`natChars_ofDigits`). A signed word is read from a
sign and digits, in any spelling, if the number that they write fits one (`signed?_eq_some_iff`).
-/

namespace ScrollExport.Number

variable {ds cs : List Char} {c : Char} {n : Nat} {i : Int}

/-! ### Digits -/

lemma toNat_of_isDigit (h : isDigit c = true) : 48 ≤ c.toNat ∧ c.toNat ≤ 57 := by
  simp only [isDigit, Bool.and_eq_true, decide_eq_true_eq, Char.le_def, UInt32.le_iff_toNat_le] at h
  exact h

lemma digitValue_lt (h : isDigit c = true) : digitValue c < 10 := by
  have hn := toNat_of_isDigit h
  have hv : digitValue c = c.toNat - 48 := rfl
  omega

lemma digitChar_digitValue (h : isDigit c = true) : (digitValue c).digitChar = c := by
  have hn := toNat_of_isDigit h
  have hv : digitValue c = c.toNat - 48 := rfl
  rw [← Char.toNat_inj, Nat.toNat_digitChar_of_lt_ten (digitValue_lt h)]
  omega

lemma ofDigits_append (ds ds' : List Char) :
    ofDigits (ds ++ ds') = ofDigits ds * 10 ^ ds'.length + ofDigits ds' := by
  induction ds' using List.reverseRecOn with
  | nil => simp
  | append_singleton ds' c ih =>
    rw [← List.append_assoc, ofDigits_concat, ofDigits_concat, ih, List.length_append,
      List.length_singleton, pow_succ]
    ring

lemma ofDigits_lt (hd : ∀ c ∈ ds, isDigit c = true) : ofDigits ds < 10 ^ ds.length := by
  induction ds using List.reverseRecOn with
  | nil => simp
  | append_singleton ds c ih =>
    have hc := digitValue_lt (hd c (by simp))
    have ih := ih fun c hc => hd c (by simp [hc])
    rw [ofDigits_concat, List.length_append, List.length_singleton, pow_succ]
    omega

lemma isDigit_of_mem_natChars {n : Nat} {c : Char} (hc : c ∈ natChars n) : isDigit c = true := by
  have h := Nat.isDigit_of_mem_toDigits (by decide) (by decide) hc
  simpa [Char.isDigit, isDigit, Char.le_def] using h

lemma natChars_ne_nil (n : Nat) : natChars n ≠ [] :=
  Nat.toDigits_ne_nil

/-- Only zero is written with a zero in front. -/
lemma head?_natChars_ne_zero {n : Nat} (hn : n ≠ 0) : (natChars n).head? ≠ some '0' := by
  induction n using Nat.strongRecOn with
  | ind n ih =>
    by_cases h : n < 10
    · rw [natChars, Nat.toDigits_of_lt_base h]
      have hd : ∀ d < 10, d ≠ 0 → d.digitChar ≠ '0' := by decide
      simpa using hd n h hn
    · rw [natChars, Nat.toDigits_of_base_le (by decide) (by omega),
        List.head?_append, Option.or_of_isSome (by simp [Nat.toDigits_ne_nil])]
      exact ih (n / 10) (by omega) (by omega)

lemma ofDigits_natChars (n : Nat) : ofDigits (natChars n) = n := by
  have h : Nat.ofDigitChars 10 (natChars n) 0 = n := Nat.ofDigitChars_ten_toDigits
  rwa [Nat.ofDigitChars_eq_foldl] at h

/-- Digits without a leading zero are those of the number that they write. -/
theorem natChars_ofDigits (hd : ∀ c ∈ ds, isDigit c = true) (hne : ds ≠ [])
    (h0 : ds.head? ≠ some '0') : natChars (ofDigits ds) = ds := by
  induction ds using List.reverseRecOn with
  | nil => exact absurd rfl hne
  | append_singleton ds c ih =>
    have hc : isDigit c = true := hd c (by simp)
    have hlast : natChars (digitValue c) = [c] := by
      rw [natChars, Nat.toDigits_of_lt_base (digitValue_lt hc), digitChar_digitValue hc]
    rw [ofDigits_concat]
    cases ds with
    | nil => simpa using hlast
    | cons d ds =>
      have hds : natChars (ofDigits (d :: ds)) = d :: ds :=
        ih (fun c hc => hd c (List.mem_append_left _ hc)) (List.cons_ne_nil d ds) h0
      have hpos : 0 < ofDigits (d :: ds) := by
        rw [Nat.pos_iff_ne_zero]
        intro hz
        rw [hz] at hds
        exact h0 (congrArg List.head? hds).symm
      calc natChars (10 * ofDigits (d :: ds) + digitValue c)
          = natChars (ofDigits (d :: ds)) ++ natChars (digitValue c) :=
            (Nat.toDigits_append_toDigits (by decide) hpos (digitValue_lt hc)).symm
        _ = d :: ds ++ [c] := by rw [hds, hlast]

lemma nat?_eq_some_iff :
    nat? cs = some n ↔ cs ≠ [] ∧ (∀ c ∈ cs, isDigit c = true) ∧ ofDigits cs = n := by
  rw [nat?, Option.ite_none_right_eq_some, List.all_eq_true, Option.some_inj, and_assoc]

/-! ### Signed words -/

/-- A text of one or more digits, with or without a sign, and the number that it writes. -/
inductive Writes : List Char → Int → Prop where
  | unsigned {ds : List Char} (hne : ds ≠ []) (hd : ∀ c ∈ ds, isDigit c = true) :
    Writes ds (ofDigits ds)
  | plus {ds : List Char} (hne : ds ≠ []) (hd : ∀ c ∈ ds, isDigit c = true) :
    Writes ('+' :: ds) (ofDigits ds)
  | minus {ds : List Char} (hne : ds ≠ []) (hd : ∀ c ∈ ds, isDigit c = true) :
    Writes ('-' :: ds) (-ofDigits ds)

lemma splitSign_of_isDigit (hne : ds ≠ []) (hd : ∀ c ∈ ds, isDigit c = true) :
    splitSign ds = (false, ds) := by
  rw [splitSign.eq_3]
  · rintro cs rfl
    exact absurd (hd '-' (List.mem_cons_self ..)) (by decide)
  · rintro cs rfl
    exact absurd (hd '+' (List.mem_cons_self ..)) (by decide)

/-- The number after its sign. -/
lemma writes_iff :
    Writes cs i ↔ ∃ n, nat? (splitSign cs).2 = some n ∧
      i = if (splitSign cs).1 then -(n : Int) else n := by
  constructor
  · rintro (⟨hne, hd⟩ | ⟨hne, hd⟩ | ⟨hne, hd⟩)
    · rw [splitSign_of_isDigit hne hd]
      exact ⟨_, nat?_eq_some_iff.2 ⟨hne, hd, rfl⟩, rfl⟩
    · exact ⟨_, nat?_eq_some_iff.2 ⟨hne, hd, rfl⟩, rfl⟩
    · exact ⟨_, nat?_eq_some_iff.2 ⟨hne, hd, rfl⟩, rfl⟩
  · rintro ⟨n, hn, rfl⟩
    obtain ⟨hne, hd, rfl⟩ := nat?_eq_some_iff.1 hn
    revert hne hd
    fun_cases splitSign cs with
    | case1 ds => exact fun hne hd => .minus hne hd
    | case2 ds => exact fun hne hd => .plus hne hd
    | case3 ds => exact fun hne hd => .unsigned hne hd

lemma Writes.eq {j : Int} (h : Writes cs i) (h' : Writes cs j) : i = j := by
  obtain ⟨n, hn, rfl⟩ := writes_iff.1 h
  obtain ⟨m, hm, rfl⟩ := writes_iff.1 h'
  rw [Option.some.inj (hn.symm.trans hm)]

lemma fitsSigned_iff : fitsSigned i = true ↔ -2 ^ 63 ≤ i ∧ i < 2 ^ 63 := by
  have hb : (signedBound : Int) = 2 ^ 63 := rfl
  simp [fitsSigned, hb]

/-- What is read as a signed word writes a number that fits one. -/
theorem signed?_eq_some_iff :
    signed? cs = some i ↔ Writes cs i ∧ -2 ^ 63 ≤ i ∧ i < 2 ^ 63 := by
  rw [← fitsSigned_iff, writes_iff]
  simp only [signed?, Option.bind_eq_some_iff]
  constructor
  · rintro ⟨n, hn, h⟩
    split_ifs at h with hf <;> grind
  · rintro ⟨⟨n, hn, rfl⟩, hf⟩
    exact ⟨n, hn, if_pos hf⟩

end ScrollExport.Number
