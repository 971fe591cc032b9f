import DesignAtlas.Proofs.Text.Places

/-!
# Offsets and places

An offset in bytes is the offset of a place if it lies on a character boundary within the text. The
offset of a cut does, and nothing else.

* `Cursor.at?_append`: at the offset of a cut lies the cut.
* `isBoundary_iff`: the boundaries are the offsets of the cuts.
* `charsBefore_append`: the characters before the offset of a cut.
* `mem_occurrences`: an occurrence is a place in the text where the needle stands.
-/

namespace DesignAtlas

namespace Cursor

open Text

theorem forward?_append (before part rest : List Char) :
    forward? before (part ++ rest) (byteLength part) = some ⟨part.reverse ++ before, rest⟩ := by
  induction part generalizing before with
  | nil => cases rest <;> rfl
  | cons c part ih =>
    -- at least one byte is left, so the first character is passed
    obtain ⟨bytes, hbytes⟩ : ∃ bytes, byteLength (c :: part) = bytes + 1 := by
      have := Char.utf8Size_pos c
      exact ⟨byteLength (c :: part) - 1, by rw [byteLength_cons]; omega⟩
    have hrest : bytes + 1 - c.utf8Size = byteLength part := by
      rw [byteLength_cons] at hbytes
      omega
    have hle : c.utf8Size ≤ bytes + 1 := by
      rw [byteLength_cons] at hbytes
      omega
    rw [hbytes, List.cons_append, forward?, if_pos hle, hrest, ih]
    simp

/-- At the offset of a cut lies the cut. -/
theorem at?_append (before rest : List Char) :
    at? (before ++ rest) (byteLength before) = some ⟨before.reverse, rest⟩ := by
  simpa [at?] using forward?_append [] before rest

/-- A place is found at its offset. -/
theorem at?_offset (c : Cursor) : at? c.text c.offset = some c := by
  have h := at?_append c.before.reverse c.rest
  rwa [byteLength_reverse, List.reverse_reverse] at h

end Cursor

namespace Text

/-- An offset in bytes lies on a character boundary within a text. -/
def IsBoundary (text : List Char) (offset : Nat) : Prop :=
  (Cursor.at? text offset).isSome = true

instance (text : List Char) (offset : Nat) : Decidable (IsBoundary text offset) :=
  inferInstanceAs (Decidable (_ = true))

/-- The boundaries are the offsets of the cuts. -/
theorem isBoundary_iff {text : List Char} {offset : Nat} :
    IsBoundary text offset ↔ ∃ before rest, text = before ++ rest ∧ byteLength before = offset := by
  constructor
  · intro h
    obtain ⟨c, hc⟩ := Option.isSome_iff_exists.1 h
    obtain ⟨rfl, rfl⟩ := Cursor.at?_eq_some hc
    exact ⟨c.before.reverse, c.rest, rfl, byteLength_reverse _⟩
  · rintro ⟨before, rest, rfl, rfl⟩
    rw [IsBoundary, Cursor.at?_append]
    rfl

theorem isBoundary_append (before rest : List Char) :
    IsBoundary (before ++ rest) (byteLength before) :=
  isBoundary_iff.2 ⟨before, rest, rfl, rfl⟩

theorem isBoundary_offset (c : Cursor) : IsBoundary c.text c.offset := by
  rw [IsBoundary, Cursor.at?_offset]
  rfl

/-- A boundary is never past the end of the text. -/
theorem IsBoundary.le {text : List Char} {offset : Nat} (h : IsBoundary text offset) :
    offset ≤ byteLength text := by
  obtain ⟨before, rest, rfl, rfl⟩ := isBoundary_iff.1 h
  rw [byteLength_append]
  exact Nat.le_add_right _ _

/-- The characters before the offset of a cut are those before the cut. -/
theorem charsBefore_append (before rest : List Char) :
    charsBefore (byteLength before) (before ++ rest) = before := by
  induction before with
  | nil => cases rest <;> rfl
  | cons c before ih =>
    obtain ⟨bytes, hbytes⟩ : ∃ bytes, byteLength (c :: before) = bytes + 1 := by
      have := Char.utf8Size_pos c
      exact ⟨byteLength (c :: before) - 1, by rw [byteLength_cons]; omega⟩
    have hrest : bytes + 1 - c.utf8Size = byteLength before := by
      rw [byteLength_cons] at hbytes
      omega
    rw [hbytes, List.cons_append, charsBefore, hrest, ih]

/-! ### Occurrences -/

theorem mem_occurrencesFrom {head : Char} {tail : List Char} {c d : Cursor}
    (h : d ∈ occurrencesFrom head tail c) : d.text = c.text ∧ head :: tail <+: d.rest := by
  fun_induction occurrencesFrom head tail c with
  | case1 => simp at h
  | case2 c hrest hhit ih =>
    rcases List.mem_cons.1 h with rfl | h
    · exact ⟨rfl, List.isPrefixOf_iff_prefix.1 hhit⟩
    · simpa using ih h
  | case3 c hrest hmiss ih => simpa using ih h

/-- An occurrence is a place in the text where the needle stands. -/
theorem mem_occurrences {needle text : List Char} {c : Cursor}
    (h : c ∈ occurrences needle text) : c.text = text ∧ needle <+: c.rest := by
  cases needle with
  | nil => simp [occurrences] at h
  | cons head tail => simpa using mem_occurrencesFrom h

end Text

end DesignAtlas
