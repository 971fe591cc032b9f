import DesignAtlas.Text.Utf8

/-!
# Texts of bytes

A shell works on bytes and knows nothing of characters beyond them. A text of bytes holds one
character for every byte, the one whose code is the byte.

* `ofBytes` and `toBytes` lead from bytes to texts and back, `ofText` and `toText` do so for the
  UTF-8 form of an ordinary text.
-/

namespace DesignAtlas.Shell

open Text

/-- A text whose characters stand for bytes. Every code is below 256. -/
abbrev ByteText : Type := String

namespace ByteText

/-- The character that stands for a byte. -/
def charOf (b : UInt8) : Char :=
  Char.ofNat b.toNat

/-- The byte that a character stands for. -/
def byteOf (c : Char) : UInt8 :=
  UInt8.ofNat c.toNat

/-- The text of bytes. -/
def ofBytes (bytes : List UInt8) : ByteText :=
  String.ofList (bytes.map charOf)

/-- The bytes of a text of bytes. -/
def toBytes (t : ByteText) : List UInt8 :=
  t.toList.map byteOf

/-- The bytes of an ordinary text. -/
def ofText (text : String) : ByteText :=
  ofBytes (Utf8.encode text)

/-- The ordinary text that bytes are in UTF-8. -/
def toText (t : ByteText) : String :=
  Utf8.decodeLossy t.toBytes

/-- Bytes on their way through a character do not change. -/
@[simp]
theorem byteOf_charOf (b : UInt8) : byteOf (charOf b) = b := by
  unfold byteOf charOf
  have h : b.toNat.isValidChar := Or.inl (by have := b.toNat_lt; omega)
  rw [Char.ofNat, dif_pos h]
  exact UInt8.ofNat_toNat

/-- Bytes can be read back from their text. -/
@[simp]
theorem toBytes_ofBytes (bytes : List UInt8) : (ofBytes bytes).toBytes = bytes := by
  simp [ofBytes, toBytes, Function.comp_def]

end ByteText

end DesignAtlas.Shell
