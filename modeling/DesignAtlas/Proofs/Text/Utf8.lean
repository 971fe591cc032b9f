import DesignAtlas.Text.Utf8
import Mathlib.Data.List.Basic

/-!
# Reading the bytes of a text

The bytes of a text are well-formed, so reading them gives the text back and nothing is replaced.

* `next_encodeChar`: the bytes of one character are read as this character.
* `decodeLossy_encode`: the bytes of a text are read as this text.
-/

namespace DesignAtlas.Text.Utf8

theorem toNat_ofNat_of_lt {b : Nat} (hb : b < 256) : (UInt8.ofNat b).toNat = b := by
  rw [UInt8.toNat_ofNat', Nat.mod_eq_of_lt hb]

/-- A continuation byte within its bounds adds six bits. -/
theorem continuations_of_le {count point low high b : Nat} {rest : List UInt8} (hb : b < 256)
    (hlow : low ≤ b) (hhigh : b ≤ high) :
    continuations (count + 1) point low high (UInt8.ofNat b :: rest) =
      continuations count (point * 0x40 + (b - 0x80)) 0x80 0xBF rest := by
  rw [continuations, toNat_ofNat_of_lt hb, if_pos ⟨hlow, hhigh⟩]

/-! ### Lead bytes by the length of the character -/

theorem lead?_one {b : Nat} (hb : b < 0x80) :
    lead? (UInt8.ofNat b) = some ⟨0, b, 0x80, 0xBF⟩ := by
  rw [lead?, toNat_ofNat_of_lt (by omega), if_pos hb]

theorem lead?_two {b : Nat} (hlow : 0xC2 ≤ b) (hhigh : b < 0xE0) :
    lead? (UInt8.ofNat b) = some ⟨1, b - 0xC0, 0x80, 0xBF⟩ := by
  rw [lead?, toNat_ofNat_of_lt (by omega), if_neg (by omega), if_neg (by omega), if_pos hhigh]

/-- Of three bytes the second one is bounded so that no shorter form and no surrogate is read. -/
theorem lead?_three {b : Nat} (hlow : 0xE0 ≤ b) (hhigh : b < 0xF0) :
    lead? (UInt8.ofNat b) = some ⟨2, b - 0xE0, if b = 0xE0 then 0xA0 else 0x80,
      if b = 0xED then 0x9F else 0xBF⟩ := by
  rw [lead?, toNat_ofNat_of_lt (by omega), if_neg (by omega), if_neg (by omega),
    if_neg (by omega)]
  by_cases hfirst : b = 0xE0
  · subst hfirst
    rfl
  by_cases hsurrogate : b = 0xED
  · subst hsurrogate
    rfl
  · -- neither of the two lead bytes with bounds of their own
    simp only [hfirst, hsurrogate, if_false, if_pos hhigh]

/-- Of four bytes the second one is bounded so that no shorter form and nothing past the last plane
is read. -/
theorem lead?_four {b : Nat} (hlow : 0xF0 ≤ b) (hhigh : b ≤ 0xF4) :
    lead? (UInt8.ofNat b) = some ⟨3, b - 0xF0, if b = 0xF0 then 0x90 else 0x80,
      if b = 0xF4 then 0x8F else 0xBF⟩ := by
  rw [lead?, toNat_ofNat_of_lt (by omega), if_neg (by omega), if_neg (by omega),
    if_neg (by omega), if_neg (by omega), if_neg (by omega), if_neg (by omega)]
  by_cases hfirst : b = 0xF0
  · subst hfirst
    rfl
  by_cases hlast : b = 0xF4
  · subst hlast
    rfl
  · rw [if_neg hfirst, if_pos (by omega), if_neg hfirst, if_neg hlast]

/-! ### Characters and texts -/

/-- The bytes of a character are read as this character. -/
theorem next_encodeChar (c : Char) (rest : List UInt8) :
    ∃ byte behind, String.utf8EncodeChar c = byte :: behind ∧
      next byte (behind ++ rest) = (some c, rest) := by
  have hvalid : c.val.toNat < 0xD800 ∨ 0xDFFF < c.val.toNat ∧ c.val.toNat < 0x110000 := c.valid
  have hback : Char.ofNat c.val.toNat = c := Char.ofNat_toNat c
  unfold String.utf8EncodeChar
  generalize c.val.toNat = v at hvalid hback
  subst hback
  dsimp only
  -- in each case the bytes hold the bits of the code point `v`
  split
  · refine ⟨_, _, rfl, ?_⟩
    rw [next, lead?_one (by omega)]
    rfl
  · split
    · have hpoint : (v / 64 % 0x20 + 0xc0 - 0xC0) * 0x40 + (v % 0x40 + 0x80 - 0x80) = v := by
        omega
      refine ⟨_, _, rfl, ?_⟩
      rw [next, lead?_two (by omega) (by omega), List.singleton_append]
      dsimp only
      rw [continuations_of_le (by omega) (by omega) (by omega), continuations, hpoint,
        Option.map_some]
    · split
      · have hpoint : ((v / 4096 % 0x10 + 0xe0 - 0xE0) * 0x40 + (v / 64 % 0x40 + 0x80 - 0x80)) *
            0x40 + (v % 0x40 + 0x80 - 0x80) = v := by omega
        refine ⟨_, _, rfl, ?_⟩
        rw [next, lead?_three (by omega) (by omega), List.cons_append, List.singleton_append]
        dsimp only
        rw [continuations_of_le (by omega) (by split <;> omega) (by split <;> omega),
          continuations_of_le (by omega) (by omega) (by omega), continuations, hpoint,
          Option.map_some]
      · have hpoint : (((v / 262144 % 0x08 + 0xf0 - 0xF0) * 0x40 +
            (v / 4096 % 0x40 + 0x80 - 0x80)) * 0x40 + (v / 64 % 0x40 + 0x80 - 0x80)) * 0x40 +
              (v % 0x40 + 0x80 - 0x80) = v := by omega
        refine ⟨_, _, rfl, ?_⟩
        rw [next, lead?_four (by omega) (by omega), List.cons_append, List.cons_append,
          List.singleton_append]
        dsimp only
        rw [continuations_of_le (by omega) (by split <;> omega) (by split <;> omega),
          continuations_of_le (by omega) (by omega) (by omega),
          continuations_of_le (by omega) (by omega) (by omega), continuations, hpoint,
          Option.map_some]

theorem decodePieces_flatMap_encodeChar (text : List Char) :
    decodePieces (text.flatMap String.utf8EncodeChar) = text.map some := by
  induction text with
  | nil => simp [decodePieces]
  | cons c text ih =>
    obtain ⟨byte, behind, hbytes, hnext⟩ :=
      next_encodeChar c (text.flatMap String.utf8EncodeChar)
    rw [List.flatMap_cons, hbytes, List.cons_append, decodePieces, hnext, ih, List.map_cons]

/-- The bytes of a text are read as this text. -/
theorem decodeLossy_encode (text : String) : decodeLossy (encode text) = text := by
  rw [decodeLossy, encode, decodePieces_flatMap_encodeChar, List.map_map]
  simp [Function.comp_def]

end DesignAtlas.Text.Utf8
