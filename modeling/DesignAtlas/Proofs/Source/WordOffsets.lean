import DesignAtlas.Proofs.Source.ScanBytes
import DesignAtlas.Proofs.Text.Utf8
import Mathlib.Data.List.Infix

/-!
# Words at offsets in bytes

A word stands at an offset of a text if its bytes stand there. In UTF-8 no byte inside a character
starts another one, so a word stands on character boundaries only, and where its bytes stand there
stand its characters.

* `bytes_prefix_iff`: a text starts with the bytes of a word exactly if it starts with the word.
* `OccursAt.isBoundary`, `occursAt_iff`: the offsets of a word are those of the cuts in front of it.
* `holdsWithin_iff`: a word stands between two offsets if it stands in the text between two cuts.
-/

namespace DesignAtlas.Source.Scan

open Text

variable {word text : List Char} {offset : Nat}

/-- The bytes of a word stand in a text from an offset on. -/
def OccursAt (word text : List Char) (offset : Nat) : Prop :=
  bytes word <+: (bytes text).drop offset

instance (word text : List Char) (offset : Nat) : Decidable (OccursAt word text offset) :=
  inferInstanceAs (Decidable (_ <+: _))

/-- A word stands in a text between two offsets. -/
def HoldsWithin (word text : List Char) (start stop : Nat) : Prop :=
  ∃ offset, start ≤ offset ∧ offset + byteLength word ≤ stop ∧ OccursAt word text offset

/-! ### Bytes and characters -/

/-- The bytes of a character do not start those of another one. -/
theorem utf8EncodeChar_append_inj {c d : Char} {rest rest' : List UInt8}
    (h : String.utf8EncodeChar c ++ rest = String.utf8EncodeChar d ++ rest') :
    c = d ∧ rest = rest' := by
  obtain ⟨byte, behind, hc, hnext⟩ := Utf8.next_encodeChar c rest
  obtain ⟨byte', behind', hd, hnext'⟩ := Utf8.next_encodeChar d rest'
  rw [hc, hd, List.cons_append, List.cons_append] at h
  obtain ⟨rfl, hbehind⟩ := List.cons_eq_cons.1 h
  -- both are what is read from the same bytes
  rw [hbehind, hnext', Prod.mk.injEq, Option.some_inj] at hnext
  exact ⟨hnext.1.symm, hnext.2.symm⟩

/-- A text starts with the bytes of a word exactly if it starts with the word. -/
theorem bytes_prefix_iff : bytes word <+: bytes text ↔ word <+: text := by
  constructor
  · intro h
    induction word generalizing text with
    | nil => exact List.nil_prefix
    | cons c word ih =>
      obtain ⟨rest, hrest⟩ := h
      cases text with
      | nil =>
        obtain ⟨b, behind, hbytes, -⟩ := exists_bytes_cons c word
        rw [hbytes] at hrest
        cases hrest
      | cons d text =>
        rw [bytes_cons, bytes_cons, List.append_assoc] at hrest
        obtain ⟨rfl, htail⟩ := utf8EncodeChar_append_inj hrest
        exact List.cons_prefix_cons.2 ⟨rfl, ih ⟨rest, htail⟩⟩
  · rintro ⟨rest, rfl⟩
    exact ⟨bytes rest, (bytes_append word rest).symm⟩

/-- A byte that can start a character stands on a character boundary. -/
theorem isBoundary_of_isUTF8FirstByte {b : UInt8} (hat : (bytes text)[offset]? = some b)
    (hfirst : b.IsUTF8FirstByte) : IsBoundary text offset := by
  induction text generalizing offset with
  | nil => cases hat
  | cons c text ih =>
    rw [bytes_cons] at hat
    by_cases hlt : offset < (String.utf8EncodeChar c).length
    · -- of the bytes of a character only the first one can start a character
      rw [List.getElem?_append_left hlt, List.getElem?_eq_getElem hlt, Option.some_inj] at hat
      rw [← hat, UInt8.isUTF8FirstByte_getElem_utf8EncodeChar] at hfirst
      rw [hfirst]
      exact isBoundary_append [] (c :: text)
    · rw [List.getElem?_append_right (Nat.le_of_not_lt hlt)] at hat
      obtain ⟨before, rest, rfl, hbefore⟩ := isBoundary_iff.1 (ih hat)
      refine isBoundary_iff.2 ⟨c :: before, rest, rfl, ?_⟩
      rw [String.length_utf8EncodeChar] at hlt hbefore
      rw [byteLength_cons]
      omega

/-! ### Offsets of words -/

/-- At the offset of a cut stands what the text goes on with there. -/
theorem occursAt_append {before rest : List Char} :
    OccursAt word (before ++ rest) (byteLength before) ↔ word <+: rest := by
  rw [OccursAt, bytes_append, ← length_bytes, List.drop_left, bytes_prefix_iff]

theorem occursAt_offset (c : Cursor) : OccursAt word c.text c.offset ↔ word <+: c.rest := by
  have h : OccursAt word (c.before.reverse ++ c.rest) (byteLength c.before.reverse) ↔
      word <+: c.rest := occursAt_append
  rwa [byteLength_reverse] at h

/-- A word stands on character boundaries only. -/
theorem OccursAt.isBoundary (h : OccursAt word text offset) (hne : word ≠ []) :
    IsBoundary text offset := by
  obtain ⟨c, word, rfl⟩ := List.exists_cons_of_ne_nil hne
  have hpos : 0 < (String.utf8EncodeChar c).length := by
    rw [String.length_utf8EncodeChar]
    exact Char.utf8Size_pos c
  obtain ⟨rest, hrest⟩ := h
  refine isBoundary_of_isUTF8FirstByte (b := (String.utf8EncodeChar c)[0]) ?_
    (UInt8.isUTF8FirstByte_getElem_utf8EncodeChar.2 rfl)
  rw [← List.head?_drop, ← hrest, bytes_cons, List.append_assoc, List.head?_append_of_ne_nil _
    (List.ne_nil_of_length_pos hpos), List.head?_eq_getElem?, List.getElem?_eq_getElem hpos]

/-- The offsets of a word are those of the cuts in front of it. -/
theorem occursAt_iff (hne : word ≠ []) :
    OccursAt word text offset ↔
      ∃ before behind, text = before ++ (word ++ behind) ∧ byteLength before = offset := by
  constructor
  · intro h
    obtain ⟨before, rest, rfl, rfl⟩ := isBoundary_iff.1 (h.isBoundary hne)
    obtain ⟨behind, rfl⟩ := occursAt_append.1 h
    exact ⟨before, behind, rfl, rfl⟩
  · rintro ⟨before, behind, rfl, rfl⟩
    exact occursAt_append.2 (List.prefix_append word behind)

theorem OccursAt.add_le (h : OccursAt word text offset) (hne : word ≠ []) :
    offset + byteLength word ≤ byteLength text := by
  obtain ⟨before, behind, rfl, rfl⟩ := (occursAt_iff hne).1 h
  simp only [byteLength_append]
  omega

/-- A word stands between the offsets of two cuts exactly if the text between them holds it. -/
theorem holdsWithin_iff {before between behind : List Char} :
    HoldsWithin word (before ++ (between ++ behind)) (byteLength before)
      (byteLength before + byteLength between) ↔ word <:+: between := by
  constructor
  · rintro ⟨offset, hstart, hstop, hoccurs⟩
    by_cases hne : word = []
    · rw [hne]
      exact List.nil_infix
    obtain ⟨front, rest, htext, rfl⟩ := (occursAt_iff hne).1 hoccurs
    -- the word starts behind the first cut and ends before the second one
    obtain ⟨front, rfl, hbehind⟩ := exists_append_of_byteLength_le htext hstart
    have hsplit : (front ++ word) ++ rest = between ++ behind := by
      rw [List.append_assoc]
      exact hbehind.symm
    have hle : byteLength (front ++ word) ≤ byteLength between := by
      rw [byteLength_append] at hstop ⊢
      omega
    obtain ⟨back, hbetween, -⟩ := exists_append_of_byteLength_le hsplit hle
    exact ⟨front, back, hbetween.symm⟩
  · rintro ⟨front, back, rfl⟩
    refine ⟨byteLength (before ++ front), ?_, ?_, ?_⟩
    · rw [byteLength_append]
      exact Nat.le_add_right _ _
    · simp only [byteLength_append]
      omega
    · have htext : before ++ (front ++ word ++ back ++ behind) =
          (before ++ front) ++ (word ++ (back ++ behind)) := by
        simp only [List.append_assoc]
      rw [htext, occursAt_append]
      exact List.prefix_append _ _

end DesignAtlas.Source.Scan
