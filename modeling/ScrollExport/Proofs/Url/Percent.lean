import Mathlib.Tactic.Common
import ScrollExport.Url.Basic

/-!
# Reading percent encodings

An encoding can be read back if percent signs are encoded, and so no two texts have the same one.
A name in a path means one of the dots that lead through folders only if it is that dot itself.
-/

namespace ScrollExport

lemma Text.utf8_injective : Function.Injective Text.utf8 := by
  intro cs ds h
  have hb : cs.utf8Encode = ds.utf8Encode := congrArg List.toByteArray h
  have hd := congrArg ByteArray.utf8Decode? hb
  rw [List.utf8Decode?_utf8Encode, List.utf8Decode?_utf8Encode] at hd
  simpa using hd

namespace Percent

open Text

/-! ### Reading back -/

lemma utf8_cons (c : Char) (cs : List Char) : utf8 (c :: cs) = utf8 [c] ++ utf8 cs :=
  utf8_append [c] cs

lemma hexValue?_upperHexDigit : ∀ n < 16, Json.hexValue? (upperHexDigit n) = some n := by
  decide

lemma decode_cons_of_ne {c : Char} (hc : c ≠ '%') (rest : List Char) :
    decode (c :: rest) = utf8 [c] ++ decode rest := by
  rw [decode.eq_2]
  · rintro a b _ rfl
    exact absurd rfl hc

lemma decode_encodeByte (b : UInt8) (rest : List Char) :
    decode (encodeByte b ++ rest) = b :: decode rest := by
  have hb := b.toNat_lt
  have hh := hexValue?_upperHexDigit (b.toNat / 16) (by omega)
  have hl := hexValue?_upperHexDigit (b.toNat % 16) (by omega)
  have hn : 16 * (b.toNat / 16) + b.toNat % 16 = b.toNat := by omega
  simp [encodeByte, decode, hh, hl, hn]

lemma decode_flatMap_encodeByte (bs : List UInt8) (rest : List Char) :
    decode (bs.flatMap encodeByte ++ rest) = bs ++ decode rest := by
  induction bs with
  | nil => rfl
  | cons b bs ih =>
    rw [List.flatMap_cons, List.append_assoc, decode_encodeByte, ih, List.cons_append]

/-- An encoded text decodes to its bytes. -/
theorem decode_encode {isEncoded : Char → Bool} (hp : isEncoded '%' = true) (cs : List Char) :
    decode (encode isEncoded cs) = utf8 cs := by
  induction cs with
  | nil => rfl
  | cons c cs ih =>
    rw [encode, List.flatMap_cons, ← encode, utf8_cons, ← ih]
    cases hc : isEncoded c with
    | true => simp only [if_true, encodeChar, decode_flatMap_encodeByte]
    | false =>
      refine decode_cons_of_ne ?_ _
      rintro rfl
      simp [hp] at hc

theorem encode_injective {isEncoded : Char → Bool} (hp : isEncoded '%' = true) :
    Function.Injective (encode isEncoded) := by
  intro cs ds h
  apply utf8_injective
  rw [← decode_encode hp, h, decode_encode hp]

lemma length_utf8_pos (c : Char) : 0 < (utf8 [c]).length := by
  simp [utf8, String.length_utf8EncodeChar, c.utf8Size_pos]

/-- Bytes are lost wherever something is decoded. -/
lemma decode_eq_or_length_lt (cs : List Char) :
    decode cs = utf8 cs ∨ (decode cs).length < (utf8 cs).length := by
  induction cs using decode.induct with
  | case1 a b rest m n hn hm ih =>
    refine .inr ?_
    have ha := length_utf8_pos a
    have hb := length_utf8_pos b
    have hl : (decode rest).length ≤ (utf8 rest).length :=
      ih.elim (fun h => Nat.le_of_eq (congrArg List.length h)) Nat.le_of_lt
    rw [utf8_cons '%', utf8_cons a, utf8_cons b]
    simp only [decode, hm, hn, List.length_cons, List.length_append]
    omega
  | case2 a b rest h ih =>
    have hd : decode ('%' :: a :: b :: rest) = utf8 ['%'] ++ decode (a :: b :: rest) := by
      rw [decode]
      split
      · rename_i m n hm hn
        exact absurd hn (h m n hm)
      · rfl
    rw [hd, utf8_cons '%' (a :: b :: rest)]
    simpa using ih
  | case3 c rest h ih =>
    have hd : decode (c :: rest) = utf8 [c] ++ decode rest := decode.eq_2 c rest h
    rw [hd, utf8_cons c rest]
    simpa using ih
  | case4 => exact .inl rfl

/-! ### Dots -/

/-- Lower case comes from itself or from the letter before it by 32. -/
lemma eq_or_toNat_of_toLower_eq {c d : Char} (h : c.toLower = d) :
    c = d ∨ c.toNat + 32 = d.toNat ∧ 65 ≤ c.toNat ∧ c.toNat ≤ 90 := by
  subst h
  unfold Char.toLower
  split_ifs with hc
  · have ha : 'A'.val.toNat = 65 := rfl
    have hz : 'Z'.val.toNat = 90 := rfl
    have hd : ('a'.val - 'A'.val).toNat = 32 := rfl
    simp only [ge_iff_le, UInt32.le_iff_toNat_le] at hc
    simp only [Char.toNat, UInt32.toNat_add]
    omega
  · exact .inl rfl

lemma eq_of_toLower_eq {c d : Char} (h : c.toLower = d) (hd : d.toNat < 97) : c = d := by
  rcases eq_or_toNat_of_toLower_eq h with h | ⟨h, hc, -⟩
  · exact h
  · omega

lemma decode_dot {c : Char} (h : c.toLower = '.') (rest : List Char) :
    decode (c :: rest) = 0x2E :: decode rest := by
  obtain rfl := eq_of_toLower_eq h (by decide)
  exact decode_cons_of_ne (by decide) rest

lemma decode_encodedDot {a b c : Char} (ha : a.toLower = '%') (hb : b.toLower = '2')
    (hc : c.toLower = 'e') (rest : List Char) :
    decode (a :: b :: c :: rest) = 0x2E :: decode rest := by
  obtain rfl := eq_of_toLower_eq ha (by decide)
  obtain rfl := eq_of_toLower_eq hb (by decide)
  have hh : Json.hexValue? c = some 14 := by
    rcases eq_or_toNat_of_toLower_eq hc with rfl | ⟨hc, -⟩
    · rfl
    · have he : c.toNat = 'E'.toNat := by
        have hn : 'e'.toNat = 'E'.toNat + 32 := rfl
        omega
      obtain rfl := Char.toNat_inj.1 he
      rfl
  have h2 : Json.hexValue? '2' = some 2 := rfl
  simp [decode, hh, h2]

lemma decode_of_isSingleDot {s : List Char} (h : Url.isSingleDot s = true) (rest : List Char) :
    decode (s ++ rest) = 0x2E :: decode rest := by
  simp [Url.isSingleDot, List.map_eq_cons_iff] at h
  rcases h with ⟨a, rfl, ha⟩ | ⟨a, b, c, rfl, ha, hb, hc⟩
  · exact decode_dot ha rest
  · exact decode_encodedDot ha hb hc rest

/-- Two dots are one after the other, however each of them is written. -/
lemma exists_of_isDoubleDot {s : List Char} (h : Url.isDoubleDot s = true) :
    ∃ a b, s = a ++ b ∧ Url.isSingleDot a = true ∧ Url.isSingleDot b = true := by
  have hs : ∃ a ∈ [".".toList, "%2e".toList], ∃ b ∈ [".".toList, "%2e".toList],
      s.map Char.toLower = a ++ b := by
    simp only [Url.isDoubleDot, decide_eq_true_eq, List.mem_cons, List.not_mem_nil, or_false] at h
    rcases h with h | h | h | h
    · exact ⟨_, List.mem_cons_self .., _, List.mem_cons_self .., h⟩
    · exact ⟨_, List.mem_cons_self .., _, List.mem_cons_of_mem _ (List.mem_cons_self ..), h⟩
    · exact ⟨_, List.mem_cons_of_mem _ (List.mem_cons_self ..), _, List.mem_cons_self .., h⟩
    · exact ⟨_, List.mem_cons_of_mem _ (List.mem_cons_self ..), _,
        List.mem_cons_of_mem _ (List.mem_cons_self ..), h⟩
  obtain ⟨a, ha, b, hb, h⟩ := hs
  obtain ⟨a', b', rfl, rfl, rfl⟩ := List.map_eq_append_iff.1 h
  exact ⟨a', b', rfl, decide_eq_true ha, decide_eq_true hb⟩

lemma decode_of_isDoubleDot {s : List Char} (h : Url.isDoubleDot s = true) :
    decode s = utf8 ['.', '.'] := by
  obtain ⟨a, b, rfl, ha, hb⟩ := exists_of_isDoubleDot h
  rw [decode_of_isSingleDot ha, ← List.append_nil b, decode_of_isSingleDot hb]
  rfl

/-- No text but a dot is encoded as one. -/
theorem isSingleDot_encode_iff {isEncoded : Char → Bool} (hp : isEncoded '%' = true)
    (hd : isEncoded '.' = false) {cs : List Char} :
    Url.isSingleDot (encode isEncoded cs) = true ↔ cs = ['.'] := by
  constructor
  · intro h
    apply utf8_injective
    rw [← decode_encode hp, ← List.append_nil (encode isEncoded cs), decode_of_isSingleDot h]
    rfl
  · rintro rfl
    have he : encode isEncoded ['.'] = ['.'] := by simp [encode, hd]
    rw [he]
    decide

/-- No text but two dots is encoded as these. -/
theorem isDoubleDot_encode_iff {isEncoded : Char → Bool} (hp : isEncoded '%' = true)
    (hd : isEncoded '.' = false) {cs : List Char} :
    Url.isDoubleDot (encode isEncoded cs) = true ↔ cs = ['.', '.'] := by
  constructor
  · intro h
    apply utf8_injective
    rw [← decode_encode hp, decode_of_isDoubleDot h]
  · rintro rfl
    have he : encode isEncoded ['.', '.'] = ['.', '.'] := by simp [encode, hd]
    rw [he]
    decide

end Percent

end ScrollExport
