import DesignAtlas.Proofs.Text.Utf8
import Mathlib.Data.List.Lex
import Mathlib.Data.String.Basic

/-!
# The order of bytes

Texts are ordered by their code points. A file system orders names by their bytes, and that is the
same: longer forms of a character have greater lead bytes, and forms of one length hold the bits of
the code point from the highest one on.

* `encodeChar_append_lt`: the bytes of a smaller character come first, whatever follows.
* `encode_lt_encode_iff`, `encode_le_encode_iff`: texts stand in the order of their bytes.
-/

namespace DesignAtlas.Text.Utf8

/-- A smaller first byte decides, and an equal one leaves the decision to the rest. -/
theorem ofNat_cons_lt {a b : Nat} {l l' : List UInt8} (hb : b < 256) (hle : a ≤ b)
    (hrest : a = b → l < l') : UInt8.ofNat a :: l < UInt8.ofNat b :: l' := by
  rw [List.cons_lt_cons_iff]
  rcases Nat.lt_or_eq_of_le hle with hlt | rfl
  · left
    rw [UInt8.lt_iff_toNat_lt, toNat_ofNat_of_lt hb, toNat_ofNat_of_lt (Nat.lt_trans hlt hb)]
    exact hlt
  · exact .inr ⟨rfl, hrest rfl⟩

/-- The bytes of a smaller character come first, whatever follows. -/
theorem encodeChar_append_lt {c d : Char} (h : c < d) (rest rest' : List UInt8) :
    String.utf8EncodeChar c ++ rest < String.utf8EncodeChar d ++ rest' := by
  have hlt : c.val.toNat < d.val.toNat := h
  have hbound : d.val.toNat < 0x110000 := by
    rcases d.valid with hd | ⟨-, hd⟩
    · exact Nat.lt_trans hd (by decide)
    · exact hd
  unfold String.utf8EncodeChar
  generalize c.val.toNat = v at hlt
  generalize d.val.toNat = w at hlt hbound
  dsimp only
  -- one case for every two lengths; a longer form of the smaller character is impossible
  split <;> split_ifs <;> simp only [List.cons_append, List.nil_append]
  all_goals
    -- byte by byte; not all of them can be equal, as they hold all bits of `v` and `w`
    repeat' (refine ofNat_cons_lt ?_ ?_ fun _ => ?_)
  all_goals omega

theorem encodeChar_ne_nil (c : Char) : String.utf8EncodeChar c ≠ [] := by
  obtain ⟨byte, behind, hbytes, -⟩ := next_encodeChar c []
  rw [hbytes]
  exact List.cons_ne_nil byte behind

/-- The bytes of a smaller text come first. -/
theorem flatMap_encodeChar_lt {text text' : List Char} (h : text < text') :
    text.flatMap String.utf8EncodeChar < text'.flatMap String.utf8EncodeChar := by
  induction h with
  | @nil c text' =>
    obtain ⟨byte, behind, hbytes⟩ := List.exists_cons_of_ne_nil (encodeChar_ne_nil c)
    rw [List.flatMap_nil, List.flatMap_cons, hbytes]
    exact .nil
  | rel hlt =>
    rw [List.flatMap_cons, List.flatMap_cons]
    exact encodeChar_append_lt hlt _ _
  | cons _ ih =>
    rw [List.flatMap_cons, List.flatMap_cons]
    exact List.append_left_lt ih

/-- Texts stand in the order of their bytes. -/
theorem encode_lt_encode_iff {s t : String} : encode s < encode t ↔ s < t := by
  have hmono : ∀ {s t : String}, s < t → encode s < encode t := fun h =>
    flatMap_encodeChar_lt (String.lt_iff_toList_lt.1 h)
  refine ⟨fun h => ?_, hmono⟩
  by_contra hnot
  rcases (not_lt.1 hnot).lt_or_eq with hlt | rfl
  · exact List.lt_asymm h (hmono hlt)
  · exact List.lt_irrefl _ h

theorem encode_le_encode_iff {s t : String} : encode s ≤ encode t ↔ s ≤ t := by
  rw [← not_lt, ← encode_lt_encode_iff]
  rfl

end DesignAtlas.Text.Utf8
