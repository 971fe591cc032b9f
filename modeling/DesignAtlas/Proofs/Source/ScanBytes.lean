import DesignAtlas.Proofs.Source.CheckedScan
import DesignAtlas.Proofs.Source.Pieces
import DesignAtlas.Proofs.Text.ByteChars
import DesignAtlas.Source.Offset

/-!
# The bytes behind a place

What a scan with checks finds at the offset of a place is what stands in the text behind it. The
places are named by what is left of the text, a suffix of it. Every character that is looked for is
an ASCII one, and in UTF-8 the byte of an ASCII character belongs to no other character.

* `IsAscii.holds_charOf`: a condition on ASCII characters can be asked of the bytes.
* `rest_ofRest`, `part_ofRest`: texts from the offset of a place on, and between two of them.
* `holdsAt_ofRest`: a byte at the offset of a place starts a character.
* `skipWhile_ofRest`: characters passed over byte by byte.
-/

namespace DesignAtlas.Source

open Text

/-! ### Offsets of suffixes -/

namespace Offset

variable {text rest : List Char}

/-- The offset of a suffix is the number of bytes before it. -/
theorem ofRest_append (before rest : List Char) :
    ofRest (before ++ rest) rest = byteLength before := by
  rw [ofRest, byteLength_append, Nat.add_sub_cancel]

theorem ofRest_nil (text : List Char) : ofRest text [] = byteLength text := rfl

/-- A stretch of text moves the offset by its bytes. -/
theorem ofRest_add {stretch : List Char} (h : stretch ++ rest <:+ text) :
    ofRest text rest = ofRest text (stretch ++ rest) + byteLength stretch := by
  obtain ⟨before, rfl⟩ := h
  rw [ofRest_append, ← List.append_assoc, ofRest_append, byteLength_append]

theorem ofRest_le {rest' : List Char} (h : rest <:+ rest') (h' : rest' <:+ text) :
    ofRest text rest' ≤ ofRest text rest := by
  obtain ⟨stretch, rfl⟩ := h
  rw [ofRest_add h']
  exact Nat.le_add_right _ _

theorem ofRest_lt {rest' : List Char} (h : rest <:+ rest') (h' : rest' <:+ text)
    (hlength : rest.length < rest'.length) : ofRest text rest' < ofRest text rest := by
  obtain ⟨stretch, rfl⟩ := h
  cases stretch with
  | nil => simp at hlength
  | cons c stretch =>
    have hsize := Char.utf8Size_pos c
    rw [ofRest_add h', byteLength_cons]
    omega

theorem isBoundary_ofRest (h : rest <:+ text) : IsBoundary text (ofRest text rest) := by
  obtain ⟨before, rfl⟩ := h
  rw [ofRest_append]
  exact isBoundary_append before rest

end Offset

open Offset
open Shell.ByteText (charOf charOf_of_mem charOf_of_ascii)

namespace Scan

variable {text rest : List Char}

theorem ok_bind {α β : Type} (a : α) (f : α → Scan β) : (Except.ok a >>= f) = f a := rfl

/-! ### Conditions on ASCII characters -/

/-- A condition that only ASCII characters satisfy. -/
def IsAscii (holds : Char → Bool) : Prop :=
  ∀ c, holds c = true → c.toNat < 128

/-- A condition on ASCII characters holds of each byte of a character or of none, as it does of the
character. -/
theorem IsAscii.holds_charOf {holds : Char → Bool} (hascii : IsAscii holds) {c : Char} {b : UInt8}
    (hb : b ∈ String.utf8EncodeChar c) : holds (charOf b) = holds c := by
  refine Bool.eq_iff_iff.2 ⟨fun h => ?_, fun h => ?_⟩
  · rwa [(charOf_of_mem hb (hascii _ h)).1] at h
  · rwa [charOf_of_ascii hb (hascii _ h)]

theorem IsAscii.utf8Size {holds : Char → Bool} (hascii : IsAscii holds) {c : Char}
    (hc : holds c = true) : c.utf8Size = 1 :=
  Char.utf8Size_eq_one_iff.2 (Nat.le_of_lt_succ (hascii c hc))

theorem isDigit_iff {c : Char} : c.isDigit = true ↔ 48 ≤ c.toNat ∧ c.toNat ≤ 57 := by
  show (decide (c.val ≥ '0'.val) && decide (c.val ≤ '9'.val)) = true ↔ _
  rw [Bool.and_eq_true, decide_eq_true_iff, decide_eq_true_iff]
  exact Iff.rfl

/-- An identifier starts with a letter or an underscore. -/
theorem isIdentifierStart_iff {c : Char} :
    isIdentifierStart c = true ↔
      (65 ≤ c.toNat ∧ c.toNat ≤ 90) ∨ (97 ≤ c.toNat ∧ c.toNat ≤ 122) ∨ c = '_' := by
  show (decide (c.val ≥ 'A'.val ∧ c.val ≤ 'Z'.val) ||
    (decide (c.val ≥ 'a'.val) && decide (c.val ≤ 'z'.val)) || c == '_') = true ↔ _
  rw [Bool.or_eq_true, Bool.or_eq_true, Bool.and_eq_true, decide_eq_true_iff, decide_eq_true_iff,
    decide_eq_true_iff, beq_iff_eq, or_assoc]
  exact Iff.rfl

theorem isAscii_isIdentifierStart : IsAscii isIdentifierStart := by
  intro c hc
  rcases isIdentifierStart_iff.1 hc with h | h | rfl
  · omega
  · omega
  · decide

theorem isAscii_isIdentifierChar : IsAscii isIdentifierChar := by
  intro c hc
  have hkinds : isIdentifierStart c = true ∨ c.isDigit = true := by
    simp only [isIdentifierChar, isIdentifierStart, Char.isAlphanum, Bool.or_eq_true] at hc ⊢
    exact or_right_comm.1 hc
  rcases hkinds with h | h
  · exact isAscii_isIdentifierStart c h
  · have hrange := isDigit_iff.1 h
    omega

theorem isAscii_isBlank : IsAscii isBlank := by
  intro c hc
  simp only [isBlank, Bool.or_eq_true, beq_iff_eq] at hc
  rcases hc with (((rfl | rfl) | rfl) | rfl) | rfl <;> decide

theorem isAscii_beq {c : Char} (hc : c.toNat < 128) : IsAscii (· == c) := by
  intro x hx
  rwa [beq_iff_eq.1 hx]

/-! ### The bytes of a text -/

@[simp]
theorem length_bytes (text : List Char) : (bytes text).length = byteLength text := by
  induction text with
  | nil => rfl
  | cons c text ih =>
    rw [bytes, List.flatMap_cons, List.length_append, String.length_utf8EncodeChar,
      byteLength_cons]
    exact congrArg (c.utf8Size + ·) ih

theorem bytes_cons (c : Char) (text : List Char) :
    bytes (c :: text) = String.utf8EncodeChar c ++ bytes text :=
  List.flatMap_cons

theorem bytes_append (first second : List Char) :
    bytes (first ++ second) = bytes first ++ bytes second :=
  List.flatMap_append

/-- At least one byte starts a character. -/
theorem exists_bytes_cons (c : Char) (text : List Char) :
    ∃ b behind, bytes (c :: text) = b :: behind ∧ b ∈ String.utf8EncodeChar c := by
  cases hbytes : String.utf8EncodeChar c with
  | nil =>
    have hsize := Char.utf8Size_pos c
    rw [← String.length_utf8EncodeChar, hbytes] at hsize
    exact absurd hsize (Nat.lt_irrefl 0)
  | cons b behind => exact ⟨b, behind ++ bytes text, by rw [bytes_cons, hbytes]; rfl, by simp⟩

theorem drop_bytes_ofRest (h : rest <:+ text) :
    (bytes text).drop (ofRest text rest) = bytes rest := by
  obtain ⟨before, rfl⟩ := h
  rw [ofRest_append, bytes_append, ← length_bytes, List.drop_left]

theorem getElem?_bytes_ofRest (h : rest <:+ text) :
    (bytes text)[ofRest text rest]? = (bytes rest).head? := by
  rw [← drop_bytes_ofRest h, List.head?_drop]

/-! ### Texts at the offset of a place -/

theorem check_ofRest (h : rest <:+ text) : check text (ofRest text rest) = .ok () :=
  if_pos (isBoundary_ofRest h)

theorem rest_ofRest (h : rest <:+ text) : Scan.rest text (ofRest text rest) = .ok rest := by
  obtain ⟨before, rfl⟩ := h
  rw [Scan.rest, ofRest_append, Cursor.at?_append]
  rfl

/-- The text between two places. -/
theorem part_ofRest {stretch : List Char} (h : stretch ++ rest <:+ text) :
    part text (ofRest text (stretch ++ rest)) (ofRest text rest) = .ok stretch := by
  have hlength : ofRest text rest - ofRest text (stretch ++ rest) = byteLength stretch := by
    rw [ofRest_add h, Nat.add_sub_cancel_left]
  rw [part, if_neg (by rw [ofRest_add h]; omega), rest_ofRest h, ok_bind, hlength,
    Cursor.at?_append]
  simp only [List.reverse_reverse]
  rfl

/-- A byte at the offset of a place starts a character. -/
theorem holdsAt_ofRest (h : rest <:+ text) {c : Char} (hc : c.toNat < 128) :
    holdsAt text (ofRest text rest) c = .ok (rest.head? == some c) := by
  rw [holdsAt, check_ofRest h, ok_bind, getElem?_bytes_ofRest h]
  cases rest with
  | nil => rfl
  | cons x rest =>
    obtain ⟨b, behind, hbytes, hb⟩ := exists_bytes_cons x rest
    rw [hbytes]
    exact congrArg Except.ok ((isAscii_beq hc).holds_charOf hb)

/-- Characters are passed over as their bytes are. -/
theorem skipWhile_ofRest {holds : Char → Bool} (hascii : IsAscii holds) (h : rest <:+ text) :
    skipWhile text holds (ofRest text rest) = .ok (ofRest text (rest.dropWhile holds)) := by
  induction rest with
  | nil => rw [skipWhile, dif_neg (by simp [ofRest_nil])]; rfl
  | cons c rest ih =>
    obtain ⟨b, behind, hbytes, hb⟩ := exists_bytes_cons c rest
    have hat : (bytes text)[ofRest text (c :: rest)]? = some b := by
      rw [getElem?_bytes_ofRest h, hbytes, List.head?_cons]
    have hbyte : byte text (ofRest text (c :: rest)) = .ok b := by
      rw [byte, hat]
      rfl
    rw [skipWhile, dif_pos (List.getElem?_eq_some_iff.1 hat).1, hbyte, ok_bind,
      hascii.holds_charOf hb]
    by_cases hc : holds c = true
    · have hnext : ofRest text rest = ofRest text (c :: rest) + 1 := by
        have := ofRest_add (show [c] ++ rest <:+ text from h)
        simpa [hascii.utf8Size hc] using this
      rw [if_pos hc, ← hnext, ih ((List.suffix_cons c rest).trans h),
        List.dropWhile_cons_of_pos hc]
    · rw [if_neg hc, List.dropWhile_cons_of_neg hc]
      rfl

end Scan

end DesignAtlas.Source
