import ScrollExport.Proofs.Text.Span
import ScrollExport.Proofs.Url.Credentials
import ScrollExport.Proofs.Url.Percent

/-!
# User information

A URL keeps user name and password as they are spelled in its text, and what is not spelled in an
encoding but must be is encoded first (`Url.inUserInfo_of_read`).
-/

namespace ScrollExport

open Text

namespace Percent

/-! ### Encoded texts -/

variable {isEncoded : Char → Bool} {cs : List Char}

lemma inUserInfo_upperHexDigit : ∀ n < 16, inUserInfo (upperHexDigit n) = false := by
  decide

lemma inUserInfo_of_mem_encodeChar {d : Char} : ∀ c ∈ encodeChar d, inUserInfo c = false := by
  intro c hc
  obtain ⟨b, -, hc⟩ := List.mem_flatMap.1 hc
  have hb := b.toNat_lt
  simp only [encodeByte, List.mem_cons, List.not_mem_nil, or_false] at hc
  rcases hc with rfl | rfl | rfl
  · rfl
  · exact inUserInfo_upperHexDigit _ (by omega)
  · exact inUserInfo_upperHexDigit _ (by omega)

/-- In an encoded text nothing is left to encode. -/
lemma inUserInfo_of_mem_encode (h : ∀ c, inUserInfo c = true → isEncoded c = true) :
    ∀ c ∈ encode isEncoded cs, inUserInfo c = false := by
  intro c hc
  obtain ⟨d, -, hc⟩ := List.mem_flatMap.1 hc
  split_ifs at hc with hd
  · exact inUserInfo_of_mem_encodeChar c hc
  · obtain rfl := List.mem_singleton.1 hc
    exact Bool.eq_false_iff.2 fun hu => hd (h c hu)

lemma ne_empty_of_decode {s t : String} (h : decode s.toList = utf8 t.toList) (ht : t ≠ "") :
    s ≠ "" := by
  rintro rfl
  exact ht (String.toList_eq_nil_iff.1 (utf8_injective (h.symm.trans utf8_nil.symm)))

end Percent

namespace Url

open Percent (inUserInfo)

/-! ### What is kept -/

/-- Whether a URL spells a user name and a password, each in its own percent encoding. A password
that is empty need not be there. -/
structure Embeds (u : Url) (username password : String) : Prop where
  username : Percent.decode u.username.toList = utf8 username.toList
  password : Percent.decode (u.password.getD "").toList = utf8 password.toList

lemma Embeds.username_ne {u : Url} {username password : String} (h : u.Embeds username password)
    (hne : username ≠ "") : u.username ≠ "" :=
  Percent.ne_empty_of_decode h.username hne

lemma inUserInfo_readUserInfo (cs : List Char) :
    (∀ c ∈ (readUserInfo cs).1.toList, inUserInfo c = false) ∧
      ∀ c ∈ ((readUserInfo cs).2.getD "").toList, inUserInfo c = false := by
  have henc (cs : List Char) : ∀ c ∈ Percent.encode inUserInfo cs, inUserInfo c = false :=
    Percent.inUserInfo_of_mem_encode fun _ => id
  rw [readUserInfo]
  split
  · simpa using henc _
  · simpa using henc _
  · simpa using ⟨henc _, henc _⟩

/-- What user information must encode is encoded in every URL. -/
lemma inUserInfo_of_read {s : String} {u : Url} (h : read s = .ok u) :
    (∀ c ∈ u.username.toList, inUserInfo c = false) ∧
      ∀ c ∈ (u.password.getD "").toList, inUserInfo c = false := by
  cases hasAuthority_of_read h with
  | missing h => simp [username, password, h]
  | ofFile host h => simp [username, password, h]
  | ofText stopped cs a hs h ha =>
    have hu := inUserInfo_readUserInfo (((splitUserInfo cs).map Prod.fst).getD [])
    rw [(userInfo_of_readAuthority ha).1] at hu
    simpa [username, password, h] using hu

end Url

end ScrollExport
