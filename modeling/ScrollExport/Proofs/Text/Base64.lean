import Mathlib.Tactic.Common
import ScrollExport.Text.Base64

/-!
# Reading base 64

The characters of a group tell its bytes, and the equals signs at the end tell how many there are.
So bytes can be read back, and no two lists of them are written in the same way.
-/

namespace ScrollExport.Text

/-- The number of a character. -/
def base64Value (c : Char) : Nat :=
  ((List.range 64).map base64Char).idxOf c

def readBase64 : List Char → List UInt8
  | a :: b :: c :: d :: rest =>
    let n := base64Value a * 64 + base64Value b
    if c = '=' then [(n / 16).toUInt8]
    else
      let n := n * 64 + base64Value c
      if d = '=' then [(n / 1024).toUInt8, (n / 4).toUInt8]
      else
        let n := n * 64 + base64Value d
        (n / 65536).toUInt8 :: (n / 256).toUInt8 :: n.toUInt8 :: readBase64 rest
  | _ => []

lemma base64Value_base64Char : ∀ n < 64, base64Value (base64Char n) = n := by
  decide +kernel

lemma base64Char_ne_fill : ∀ n < 64, base64Char n ≠ '=' := by
  decide +kernel

lemma toUInt8_eq {n : Nat} {b : UInt8} (h : n % 256 = b.toNat) : n.toUInt8 = b :=
  UInt8.toNat_inj.1 h

theorem readBase64_base64 (bs : List UInt8) : readBase64 (base64 bs) = bs := by
  induction bs using base64.induct with
  | case1 => rfl
  | case2 a =>
    have ha := a.toNat_lt
    rw [base64, readBase64, if_pos rfl, base64Value_base64Char _ (by omega),
      base64Value_base64Char _ (by omega), toUInt8_eq]
    omega
  | case3 a b =>
    have ha := a.toNat_lt
    have hb := b.toNat_lt
    rw [base64, readBase64, if_neg (base64Char_ne_fill _ (by omega)), if_pos rfl,
      base64Value_base64Char _ (by omega), base64Value_base64Char _ (by omega),
      base64Value_base64Char _ (by omega), toUInt8_eq, toUInt8_eq]
    · omega
    · omega
  | case4 a b c rest ih =>
    have ha := a.toNat_lt
    have hb := b.toNat_lt
    have hc := c.toNat_lt
    rw [base64, readBase64, if_neg (base64Char_ne_fill _ (by omega)),
      if_neg (base64Char_ne_fill _ (by omega)), base64Value_base64Char _ (by omega),
      base64Value_base64Char _ (by omega), base64Value_base64Char _ (by omega),
      base64Value_base64Char _ (by omega), ih]
    dsimp only
    rw [toUInt8_eq, toUInt8_eq, toUInt8_eq]
    · omega
    · omega
    · omega

theorem base64_injective : Function.Injective base64 :=
  Function.LeftInverse.injective readBase64_base64

end ScrollExport.Text
