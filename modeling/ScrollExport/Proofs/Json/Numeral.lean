import ScrollExport.Json.Printer
import ScrollExport.Json.Token
import ScrollExport.Proofs.Number.Decimal
import ScrollExport.Proofs.Text.Span

/-!
# Numerals of numbers

The numeral that each number is written as. The text of a number is exactly one numeral
(`scan_chars`), and a whole number that fits a word is the value of its own (`value?_ofInt`).
-/

namespace ScrollExport

namespace Json.Numeral

open Number
open Text (takeWhile_append_of_head? dropWhile_append_of_head?)

/-! ### Texts of numerals -/

def fractionChars : Option (List Char) → List Char
  | none => []
  | some ds => '.' :: ds

/-- An exponent has always a sign. -/
def exponentChars : Option (Bool × List Char) → List Char
  | none => []
  | some (negative, ds) => 'e' :: (if negative then '-' else '+') :: ds

def chars (n : Numeral) : List Char :=
  Binary64.signChars n.negative ++ n.whole ++ fractionChars n.fraction ++ exponentChars n.exponent

/-- One or more digits. -/
def IsDigits (ds : List Char) : Prop :=
  ds ≠ [] ∧ ∀ c ∈ ds, isDigit c = true

structure IsWellFormed (n : Numeral) : Prop where
  whole : IsDigits n.whole
  leading : n.whole.head? = some '0' → n.whole.length = 1
  fraction : ∀ ds ∈ n.fraction, IsDigits ds
  exponent : ∀ e ∈ n.exponent, IsDigits e.2

/-- A text that does not go on with a numeral before it. -/
def Ends (rest : List Char) : Prop :=
  ∀ c ∈ rest.head?, isDigit c = false ∧ c ≠ '.' ∧ c ≠ 'e' ∧ c ≠ 'E'

lemma ends_nil : Ends [] := by
  simp [Ends]

/-! ### Scanning -/

variable {ds rest : List Char}

lemma scanExponent_exponentChars {e : Option (Bool × List Char)} (he : ∀ x ∈ e, IsDigits x.2)
    (hr : Ends rest) : scanExponent (exponentChars e ++ rest) = some (e, rest) := by
  cases e with
  | none =>
    cases rest with
    | nil => rfl
    | cons c rest =>
      obtain ⟨-, -, h₁, h₂⟩ := hr c rfl
      simp [exponentChars, scanExponent, h₁, h₂]
  | some x =>
    obtain ⟨negative, ds⟩ := x
    obtain ⟨hne, hd⟩ := he _ rfl
    have hs : splitSign ((if negative then '-' else '+') :: (ds ++ rest)) =
        (negative, ds ++ rest) := by
      cases negative <;> rfl
    have hr' := fun c hc => (hr c hc).1
    simp [exponentChars, scanExponent, hs, takeWhile_append_of_head? hd hr',
      dropWhile_append_of_head? hd hr', hne]

lemma scanFraction_fractionChars {f : Option (List Char)} (hf : ∀ ds ∈ f, IsDigits ds)
    (hr : ∀ c ∈ rest.head?, isDigit c = false ∧ c ≠ '.') :
    scanFraction (fractionChars f ++ rest) = some (f, rest) := by
  cases f with
  | none =>
    cases rest with
    | nil => rfl
    | cons c rest =>
      rw [fractionChars, List.nil_append, scanFraction]
      rintro cs ⟨⟩
      exact (hr _ rfl).2 rfl
  | some ds =>
    obtain ⟨hne, hd⟩ := hf _ rfl
    have hr' := fun c hc => (hr c hc).1
    simp [fractionChars, scanFraction, takeWhile_append_of_head? hd hr',
      dropWhile_append_of_head? hd hr', hne]

/-- What follows the whole digits is no digit, and what follows the fraction no point either. -/
lemma head?_exponentChars {e : Option (Bool × List Char)} (hr : Ends rest) :
    ∀ c ∈ (exponentChars e ++ rest).head?, isDigit c = false ∧ c ≠ '.' := by
  cases e with
  | none => exact fun c hc => ⟨(hr c hc).1, (hr c hc).2.1⟩
  | some x =>
    rintro c ⟨⟩
    decide

lemma head?_fractionChars {f : Option (List Char)} {e : Option (Bool × List Char)}
    (hr : Ends rest) :
    ∀ c ∈ (fractionChars f ++ (exponentChars e ++ rest)).head?, isDigit c = false := by
  cases f with
  | none => exact fun c hc => (head?_exponentChars hr c hc).1
  | some ds =>
    rintro c ⟨⟩
    decide

lemma splitMinus_signChars (negative : Bool) {cs : List Char} (hc : cs.head? ≠ some '-') :
    splitMinus (Binary64.signChars negative ++ cs) = (negative, cs) := by
  cases negative with
  | true => rfl
  | false =>
    rw [Binary64.signChars, if_neg (by decide), List.nil_append, splitMinus]
    rintro cs rfl
    exact hc rfl

lemma IsDigits.head?_ne_minus (hd : IsDigits ds) (rest : List Char) :
    (ds ++ rest).head? ≠ some '-' := by
  obtain ⟨c, ds', rfl⟩ := List.exists_cons_of_ne_nil hd.1
  have hc := hd.2 c (List.mem_cons_self ..)
  rintro ⟨⟩
  exact absurd hc (by decide)

/-- A numeral is read from its text, if nothing goes on with it. -/
theorem scan_chars {n : Numeral} (hn : n.IsWellFormed) (hr : Ends rest) :
    scan (n.chars ++ rest) = some (n, rest) := by
  have hm := splitMinus_signChars n.negative (hn.whole.head?_ne_minus
    (fractionChars n.fraction ++ (exponentChars n.exponent ++ rest)))
  have hh := head?_fractionChars (f := n.fraction) (e := n.exponent) hr
  have hz : ¬ (n.whole = [] ∨ (n.whole.head? = some '0' ∧ n.whole.length ≠ 1)) := by
    rintro (h | ⟨h, h'⟩)
    · exact hn.whole.1 h
    · exact h' (hn.leading h)
  simp only [chars, scan, List.append_assoc, hm, takeWhile_append_of_head? hn.whole.2 hh,
    dropWhile_append_of_head? hn.whole.2 hh, if_neg hz,
    scanFraction_fractionChars hn.fraction (head?_exponentChars hr),
    scanExponent_exponentChars hn.exponent hr, Option.bind_some, Option.map_some]

/-! ### Whole numbers -/

def ofInt (i : Int) : Numeral :=
  ⟨i < 0, natChars i.natAbs, none, none⟩

lemma chars_ofInt (i : Int) : (ofInt i).chars = intChars i := by
  by_cases h : i < 0 <;>
    simp [ofInt, chars, intChars, Binary64.signChars, fractionChars, exponentChars, h]

lemma isDigits_natChars (n : Nat) : IsDigits (natChars n) :=
  ⟨natChars_ne_nil n, fun _ hc => isDigit_of_mem_natChars hc⟩

/-- The number zero is a single digit. -/
lemma length_natChars_of_head? {n : Nat} (h : (natChars n).head? = some '0') :
    (natChars n).length = 1 := by
  by_cases hn : n = 0
  · subst hn
    rfl
  · exact absurd h (head?_natChars_ne_zero hn)

lemma isWellFormed_ofInt (i : Int) : (ofInt i).IsWellFormed where
  whole := isDigits_natChars _
  leading := length_natChars_of_head?
  fraction := nofun
  exponent := nofun

/-- The number is a word, with or without a sign. -/
def FitsWord (i : Int) : Prop :=
  fitsSigned i = true ∨ fitsUnsigned i = true

instance : DecidablePred FitsWord :=
  fun _ => inferInstanceAs (Decidable (_ ∨ _))

lemma value?_ofInt {i : Int} (hi : FitsWord i) : (ofInt i).value? = some (.int i) := by
  have hb : -(signedBound : Int) ≤ i ∧ i < unsignedBound := by
    have hlt : signedBound < unsignedBound := by decide
    simp only [FitsWord, fitsSigned, fitsUnsigned, Bool.and_eq_true, decide_eq_true_eq] at hi
    omega
  simp only [value?, ofInt, ofDigits_natChars, Option.isNone_none, Bool.and_self, if_true]
  by_cases h : i < 0
  · have hs : fitsSigned i = true := by
      simp only [fitsSigned, Bool.and_eq_true, decide_eq_true_eq]
      omega
    have hn : decide ((i.natAbs : Int) ≠ 0) = true := by
      simp only [decide_eq_true_eq]
      omega
    have he : -(i.natAbs : Int) = i := by omega
    simp only [h, hs, hn, he, decide_true, Bool.not_true, Bool.false_and, Bool.and_self,
      Bool.false_eq_true, if_true, if_false]
  · have hs : fitsUnsigned i = true := by
      simp only [fitsUnsigned, Bool.and_eq_true, decide_eq_true_eq]
      omega
    have he : (i.natAbs : Int) = i := by omega
    simp only [h, hs, he, decide_false, Bool.not_false, Bool.and_self, if_true]

end Json.Numeral

/-! ### Fractions and powers of ten -/

open Number

namespace Binary64

lemma gridRatio_pos (e p : Int) : 0 < (gridRatio e p).1 :=
  Nat.mul_pos (Nat.pow_pos (by decide)) (Nat.pow_pos (by decide))

lemma ne_zero_of_inside {closed : Bool} {low high d b : Nat} (hl : 0 < low)
    (h : (if closed then decide (low ≤ d * b) && decide (d * b ≤ high)
      else decide (low < d * b) && decide (d * b < high)) = true) : d ≠ 0 := by
  rintro rfl
  cases closed <;> simp at h
  omega

/-- No decimal that rounds to a positive number is zero. -/
lemma digits_of_onGrid {interval : RoundingInterval} {e p : Int} {d : Decimal}
    (hl : 0 < interval.low) (h : onGrid interval e p = some d) : d.digits ≠ 0 := by
  have ha : 0 < interval.low * (gridRatio e p).1 := Nat.mul_pos hl (gridRatio_pos e p)
  simp only [onGrid] at h
  split at h
  case h_1 hb _ =>
    split_ifs at h
    · obtain rfl := Option.some.inj h
      exact ne_zero_of_inside ha hb
    · obtain rfl := Option.some.inj h
      exact Nat.add_one_ne_zero _
  case h_2 hb _ =>
    obtain rfl := Option.some.inj h
    exact ne_zero_of_inside ha hb
  case h_3 =>
    obtain rfl := Option.some.inj h
    exact Nat.add_one_ne_zero _
  case h_4 => simp at h

lemma digits_shortest {m : Nat} (hm : m ≠ 0) (e : Int) :
    shortest m e = ⟨0, 0⟩ ∨ (shortest m e).digits ≠ 0 := by
  simp only [shortest]
  cases h : (List.range 24).findSome? fun k : Nat =>
      onGrid (roundingInterval m e) e (topExponent m e - k) with
  | none => exact .inl rfl
  | some d =>
    obtain ⟨k, -, hk⟩ := List.exists_of_findSome?_eq_some h
    refine .inr (digits_of_onGrid ?_ hk)
    simp only [roundingInterval]
    split <;> omega

end Binary64

namespace Json.Numeral

/-- The numeral of a decimal. One that is not written positionally has an exponent. -/
def ofDecimal (negative : Bool) (d : Decimal) : Numeral :=
  if -5 < d.pointPlace ∧ d.pointPlace ≤ 16 then
    let (whole, fraction) := d.positional
    ⟨negative, whole, some (if fraction = [] then ['0'] else fraction), none⟩
  else
    let ds := natChars d.digits
    let exponent := d.pointPlace - 1
    ⟨negative, ds.take 1, if ds.length = 1 then none else some (ds.drop 1),
      some (exponent < 0, natChars exponent.natAbs)⟩

/-- The numeral of a number that is not infinite. -/
def ofFinite (negative : Bool) (m : Nat) (e : Int) : Numeral :=
  if m = 0 then ⟨negative, ['0'], some ['0'], none⟩
  else ofDecimal negative (Binary64.shortest m e)

lemma chars_ofFinite (negative : Bool) (m : Nat) (e : Int) :
    (ofFinite negative m e).chars = (Binary64.finite negative m e).jsonChars := by
  cases m with
  | zero => simp [ofFinite, chars, Binary64.jsonChars, fractionChars, exponentChars]
  | succ m =>
    simp only [ofFinite, Nat.add_one_ne_zero, if_false, ofDecimal, Binary64.jsonChars]
    split
    · simp [chars, fractionChars, exponentChars]
    · simp only [chars, Decimal.scientific, exponentChars, decide_eq_true_eq, List.append_assoc]
      split_ifs <;> simp [fractionChars]

lemma IsDigits.take {ds : List Char} (hd : IsDigits ds) {n : Nat} (hn : n ≠ 0) :
    IsDigits (ds.take n) :=
  ⟨by simp [hn, hd.1], fun c hc => hd.2 c (List.mem_of_mem_take hc)⟩

lemma isDigit_of_mem_replicate {n : Nat} : ∀ c ∈ List.replicate n '0', isDigit c = true := by
  intro c hc
  rw [List.eq_of_mem_replicate hc]
  decide

lemma isDigits_zero : IsDigits ['0'] :=
  ⟨by simp, List.forall_mem_singleton.2 (by decide)⟩

/-- The whole part has no zero in front, unless it is zero. -/
lemma isDigits_positional {d : Decimal} (hd : d = ⟨0, 0⟩ ∨ d.digits ≠ 0) :
    IsDigits d.positional.1 ∧ (d.positional.1.head? = some '0' → d.positional.1.length = 1) ∧
      ∀ c ∈ d.positional.2, isDigit c = true := by
  have hds := isDigits_natChars d.digits
  simp only [Decimal.positional]
  split_ifs with he hp
  · refine ⟨⟨by simp [hds.1], ?_⟩, ?_, by simp⟩
    · intro c hc
      rcases List.mem_append.1 hc with hc | hc
      · exact hds.2 c hc
      · exact isDigit_of_mem_replicate c hc
    · intro hh
      rcases hd with rfl | hd
      · rfl
      · rw [List.head?_append, Option.or_of_isSome (by simp [hds.1])] at hh
        exact absurd hh (head?_natChars_ne_zero hd)
  · refine ⟨hds.take (by omega), ?_, fun c hc => hds.2 c (List.mem_of_mem_drop hc)⟩
    intro hh
    rw [List.head?_take, if_neg (by omega)] at hh
    rcases hd with rfl | hd
    · exact absurd (Int.le_refl 0) he
    · exact absurd hh (head?_natChars_ne_zero hd)
  · refine ⟨isDigits_zero, fun _ => rfl, ?_⟩
    intro c hc
    rcases List.mem_append.1 hc with hc | hc
    · exact isDigit_of_mem_replicate c hc
    · exact hds.2 c hc

lemma isWellFormed_ofDecimal {negative : Bool} {d : Decimal}
    (hd : d = ⟨0, 0⟩ ∨ d.digits ≠ 0) : (ofDecimal negative d).IsWellFormed := by
  have hds := isDigits_natChars d.digits
  unfold ofDecimal
  split_ifs with hp
  · have h := isDigits_positional hd
    generalize d.positional = parts at h ⊢
    obtain ⟨hw, hl, hf⟩ := h
    refine ⟨hw, hl, ?_, nofun⟩
    rintro ds ⟨⟩
    split_ifs with hn
    · exact isDigits_zero
    · exact ⟨hn, hf⟩
  · refine ⟨hds.take (by decide), ?_, ?_, ?_⟩
    · have := List.length_pos_iff.2 hds.1
      rw [List.length_take]
      exact fun _ => by omega
    · intro ds hm
      dsimp only at hm
      split_ifs at hm with h1
      · cases hm
      obtain rfl := Option.some.inj hm
      refine ⟨fun h => ?_, fun c hc => hds.2 c (List.mem_of_mem_drop hc)⟩
      have hl := congrArg List.length h
      have := List.length_pos_iff.2 hds.1
      rw [List.length_drop, List.length_nil] at hl
      omega
    · rintro e ⟨⟩
      exact isDigits_natChars _

lemma isWellFormed_ofFinite (negative : Bool) (m : Nat) (e : Int) :
    (ofFinite negative m e).IsWellFormed := by
  unfold ofFinite
  split_ifs with hm
  · refine ⟨isDigits_zero, fun _ => rfl, ?_, nofun⟩
    rintro ds ⟨⟩
    exact isDigits_zero
  · exact isWellFormed_ofDecimal (Binary64.digits_shortest hm e)

end Json.Numeral

end ScrollExport
