import DesignAtlas.Shell.ByteText
import Mathlib.Data.List.Basic

/-!
# Characters that stand for bytes

In UTF-8 the byte of an ASCII character belongs to no other character, so whoever reads a text byte
by byte finds every ASCII character where it stands, and nowhere else.

* `charOf_of_mem`: a byte below 128 is a whole character.
* `charOf_eq_iff`: an ASCII character is found by its byte.
* `ofText_append`, `ofText_of_ascii`: the bytes of texts, as texts.
-/

namespace DesignAtlas.Shell.ByteText

theorem toNat_charOf (b : UInt8) : (charOf b).toNat = b.toNat := by
  have hvalid : b.toNat.isValidChar := by
    have := b.toNat_lt
    exact .inl (by omega)
  rw [charOf, Char.ofNat, dif_pos hvalid]
  rfl

/-- A byte below 128 is a whole character. -/
theorem charOf_of_mem {c : Char} {b : UInt8} (hb : b ∈ String.utf8EncodeChar c)
    (hascii : (charOf b).toNat < 128) : charOf b = c ∧ String.utf8EncodeChar c = [b] := by
  have hback : Char.ofNat c.val.toNat = c := Char.ofNat_toNat c
  have hvalid : c.val.toNat < 0x110000 := by
    rcases c.valid with h | h
    · exact Nat.lt_trans h (by decide)
    · exact h.2
  rw [toNat_charOf] at hascii
  unfold String.utf8EncodeChar at hb ⊢
  generalize c.val.toNat = v at hback hvalid hb
  dsimp only at hb ⊢
  by_cases hone : v ≤ 0x7f
  · rw [if_pos hone, List.mem_singleton] at hb
    rw [if_pos hone, hb]
    refine ⟨?_, rfl⟩
    rw [charOf, UInt8.toNat_ofNat', Nat.mod_eq_of_lt (by omega), hback]
  · -- in the longer forms every byte has its highest bit set
    refine absurd hascii (Nat.not_lt.2 ?_)
    rw [if_neg hone] at hb
    split at hb
    · rcases List.mem_pair.1 hb with rfl | rfl <;> rw [UInt8.toNat_ofNat'] <;> omega
    · split at hb <;> simp only [List.mem_cons, List.not_mem_nil, or_false] at hb
      · rcases hb with rfl | rfl | rfl <;> rw [UInt8.toNat_ofNat'] <;> omega
      · rcases hb with rfl | rfl | rfl | rfl <;> rw [UInt8.toNat_ofNat'] <;> omega

/-- The byte of an ASCII character is the character. -/
theorem charOf_of_ascii {c : Char} {b : UInt8} (hb : b ∈ String.utf8EncodeChar c)
    (hc : c.toNat < 128) : charOf b = c := by
  have hone : c.val.toNat ≤ 0x7f := Nat.le_of_lt_succ hc
  rw [String.utf8EncodeChar, if_pos hone, List.mem_singleton] at hb
  rw [hb, charOf, UInt8.toNat_ofNat', Nat.mod_eq_of_lt (by omega)]
  exact Char.ofNat_toNat c

theorem charOf_eq_iff {c d : Char} {b : UInt8} (hb : b ∈ String.utf8EncodeChar c)
    (hd : d.toNat < 128) : charOf b = d ↔ c = d := by
  constructor
  · intro h
    rw [← (charOf_of_mem hb (by rwa [h])).1, h]
  · rintro rfl
    exact charOf_of_ascii hb hd

/-- An ASCII character is its one byte. -/
theorem map_charOf_of_ascii {c : Char} (hc : c.toNat < 128) :
    (String.utf8EncodeChar c).map charOf = [c] := by
  have hone : c.val.toNat ≤ 0x7f := Nat.le_of_lt_succ hc
  have hbytes : String.utf8EncodeChar c = [UInt8.ofNat c.val.toNat] := by
    rw [String.utf8EncodeChar, if_pos hone]
  rw [hbytes, List.map_singleton, charOf_of_ascii (by rw [hbytes]; simp) hc]

/-! ### Bytes of texts -/

theorem toList_ofText (text : String) :
    (ofText text).toList = text.toList.flatMap fun c => (String.utf8EncodeChar c).map charOf := by
  rw [ofText, ofBytes, String.toList_ofList, Text.Utf8.encode, List.map_flatMap]

theorem ofText_append (first second : String) :
    ofText (first ++ second) = ofText first ++ ofText second := by
  rw [← String.toList_inj, String.toList_append, toList_ofText, toList_ofText, toList_ofText,
    String.toList_append, List.flatMap_append]

/-- The bytes of an ASCII text are the text. -/
theorem ofText_of_ascii {text : String} (h : (text.toList.all fun c => c.toNat < 128) = true) :
    ofText text = text := by
  rw [← String.toList_inj, toList_ofText,
    List.flatMap_congr fun c hc =>
      map_charOf_of_ascii (of_decide_eq_true (List.all_eq_true.1 h c hc)),
    List.flatMap_singleton']

end DesignAtlas.Shell.ByteText
