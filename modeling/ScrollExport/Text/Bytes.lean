/-!
# Bytes of a text

The UTF-8 encoding of characters as a list of bytes.
-/

namespace ScrollExport.Text

def utf8 (cs : List Char) : List UInt8 :=
  cs.flatMap String.utf8EncodeChar

@[simp] theorem utf8_nil : utf8 [] = [] := rfl

@[simp] theorem utf8_append (as bs : List Char) : utf8 (as ++ bs) = utf8 as ++ utf8 bs := by
  simp [utf8]

/-- The bytes of a character that is a single one. -/
def byteOf (c : Char) : UInt8 :=
  c.toNat.toUInt8

end ScrollExport.Text
