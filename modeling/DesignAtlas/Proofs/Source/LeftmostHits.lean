import DesignAtlas.Proofs.Source.ScanPieces
import DesignAtlas.Proofs.Source.WordOffsets
import DesignAtlas.Source.Offset
import Mathlib.Order.Bounds.Defs

/-!
# Leftmost hits

A search for a needle goes on behind each hit. A needle can overlap itself, so not every occurrence
is a hit, but one that is none starts inside of a hit.

* `Hits`: what a search lists from an offset on, least occurrence first.
* `hits_occurrencesFrom`: the occurrences from a place on are the hits from its offset on.
* `Hits.pairwise_end_le`, `Hits.isChain`, `Hits.exists_hit`: how hits lie to each other and to the
  other occurrences.
* `isLeftmost_occurrencesOf`: the offsets that a search lists in a text.
-/

namespace DesignAtlas.Source.Scan

open Text Offset

/-- What a search lists from an offset on. -/
inductive Hits (needle text : List Char) : (start : Nat) → List Nat → Prop
  /-- The needle stands nowhere from the offset on. -/
  | done {start : Nat} :
      (∀ offset, start ≤ offset → ¬OccursAt needle text offset) → Hits needle text start []
  /-- The least occurrence is a hit, and the search goes on at its end. -/
  | hit {start hit : Nat} {hits : List Nat} :
      IsLeast {offset | start ≤ offset ∧ OccursAt needle text offset} hit →
        Hits needle text (hit + byteLength needle) hits → Hits needle text start (hit :: hits)

/-- How the hits of a search lie in a text. -/
structure IsLeftmost (needle text : List Char) (hits : List Nat) : Prop where
  /-- The needle stands at every hit. -/
  occursAt : ∀ hit ∈ hits, OccursAt needle text hit
  /-- The hits are listed in increasing order. -/
  increasing : hits.Pairwise fun a b => a < b
  /-- A hit ends before the next one starts. -/
  apart : hits.Pairwise fun a b => a + byteLength needle ≤ b
  /-- The first hit is the least occurrence. -/
  first : ∀ hit ∈ hits.head?, IsLeast {offset | OccursAt needle text offset} hit
  /-- Each next hit is the least occurrence at or behind the end of the one before it. -/
  next : hits.IsChain fun a b =>
    IsLeast {offset | a + byteLength needle ≤ offset ∧ OccursAt needle text offset} b
  /-- An occurrence is a hit or starts inside of one. -/
  covers : ∀ offset, OccursAt needle text offset →
    ∃ hit ∈ hits, hit ≤ offset ∧ offset < hit + byteLength needle

namespace Hits

variable {needle text : List Char} {start start' : Nat} {hits : List Nat}

/-- A search can start earlier if the needle does not stand in between. -/
theorem of_le (hle : start ≤ start')
    (hnone : ∀ offset, start ≤ offset → offset < start' → ¬OccursAt needle text offset)
    (h : Hits needle text start' hits) : Hits needle text start hits := by
  have hlater : ∀ offset, start ≤ offset → OccursAt needle text offset → start' ≤ offset :=
    fun offset hstart hoccurs => Nat.le_of_not_lt fun hlt => hnone offset hstart hlt hoccurs
  cases h with
  | done hend =>
    exact .done fun offset hstart hoccurs =>
      hend offset (hlater offset hstart hoccurs) hoccurs
  | hit hleast hrest =>
    obtain ⟨⟨hstart, hoccurs⟩, hfirst⟩ := hleast
    refine .hit ⟨⟨hle.trans hstart, hoccurs⟩, fun offset hoffset => ?_⟩ hrest
    exact hfirst ⟨hlater offset hoffset.1 hoffset.2, hoffset.2⟩

theorem occursAt_of_mem (h : Hits needle text start hits) :
    ∀ hit ∈ hits, start ≤ hit ∧ OccursAt needle text hit := by
  induction h with
  | done => exact nofun
  | @hit start hit hits hleast _ ih =>
    intro later hlater
    rcases List.mem_cons.1 hlater with rfl | hlater
    · exact hleast.1
    · -- later hits lie behind the end of this one
      have hafter := (ih later hlater).1
      exact ⟨by have := hleast.1.1; omega, (ih later hlater).2⟩

/-- A hit ends before the next one starts. -/
theorem pairwise_end_le (h : Hits needle text start hits) :
    hits.Pairwise fun a b => a + byteLength needle ≤ b := by
  induction h with
  | done => exact .nil
  | hit _ hrest ih =>
    exact List.pairwise_cons.2 ⟨fun later hlater => (hrest.occursAt_of_mem later hlater).1, ih⟩

/-- Each next hit is the least occurrence at or behind the end of the one before it. -/
theorem isChain (h : Hits needle text start hits) : hits.IsChain fun a b =>
    IsLeast {offset | a + byteLength needle ≤ offset ∧ OccursAt needle text offset} b := by
  induction h with
  | done => exact .nil
  | hit _ hrest ih =>
    cases hrest with
    | done => exact .singleton _
    | hit hleast _ => exact .cons_cons hleast ih

/-- From the start of a search on every occurrence is a hit or starts inside of one. -/
theorem exists_hit (h : Hits needle text start hits) {offset : Nat} (hstart : start ≤ offset)
    (hoccurs : OccursAt needle text offset) :
    ∃ hit ∈ hits, hit ≤ offset ∧ offset < hit + byteLength needle := by
  induction h with
  | done hnone => exact absurd hoccurs (hnone offset hstart)
  | @hit start hit hits hleast _ ih =>
    -- what starts behind the end of this hit is left to the rest of the search
    by_cases hinside : offset < hit + byteLength needle
    · exact ⟨hit, by simp, hleast.2 ⟨hstart, hoccurs⟩, hinside⟩
    · obtain ⟨later, hmem, hlater⟩ := ih (Nat.le_of_not_lt hinside)
      exact ⟨later, List.mem_cons_of_mem hit hmem, hlater⟩

/-- The hits from the start of a text on. -/
theorem isLeftmost (h : Hits needle text 0 hits) (hne : needle ≠ []) :
    IsLeftmost needle text hits where
  occursAt hit hmem := (h.occursAt_of_mem hit hmem).2
  increasing := h.pairwise_end_le.imp fun {a b} hle => by
    have hpos : byteLength needle ≠ 0 := fun hzero => hne (byteLength_eq_zero_iff.1 hzero)
    omega
  apart := h.pairwise_end_le
  first := by
    cases h with
    | done => exact nofun
    | @hit start hit hits hleast _ =>
      rintro _ ⟨rfl⟩
      simpa only [Nat.zero_le, true_and] using hleast
  next := h.isChain
  covers offset hoccurs := h.exists_hit (Nat.zero_le offset) hoccurs

end Hits

/-! ### The search -/

/-- Inside of a character nothing stands. -/
theorem not_occursAt_of_lt {word : List Char} {c : Cursor} {offset : Nat} (hne : word ≠ [])
    (hmiss : ¬word <+: c.rest) (hle : c.offset ≤ offset) (hlt : offset < (c.advance 1).offset) :
    ¬OccursAt word c.text offset := by
  intro hoccurs
  obtain ⟨front, behind, htext, rfl⟩ := (occursAt_iff hne).1 hoccurs
  have hsplit : c.before.reverse ++ c.rest = front ++ (word ++ behind) := htext
  obtain ⟨between, rfl, hrest⟩ :=
    exists_append_of_byteLength_le hsplit (by rwa [byteLength_reverse])
  cases between with
  | nil => exact hmiss ⟨behind, hrest.symm⟩
  | cons x between =>
    -- the word would start behind the character
    rw [List.cons_append] at hrest
    rw [Cursor.advance_one hrest] at hlt
    simp only [Cursor.offset, byteLength_append, byteLength_reverse, byteLength_cons] at hlt
    omega

/-- The occurrences from a place on are the hits from its offset on. -/
theorem hits_occurrencesFrom (head : Char) (tail : List Char) (c : Cursor) :
    Hits (head :: tail) c.text c.offset ((occurrencesFrom head tail c).map Cursor.offset) := by
  have hne : head :: tail ≠ [] := List.cons_ne_nil head tail
  fun_induction occurrencesFrom head tail c with
  | case1 c hend =>
    refine .done fun offset hle hoccurs => ?_
    have hpos := Char.utf8Size_pos head
    have hfits := hoccurs.add_le hne
    simp only [Cursor.text, Cursor.offset, hend, List.append_nil, byteLength_reverse,
      byteLength_cons] at hle hfits
    omega
  | case2 c hrest hhit ih =>
    have hprefix : head :: tail <+: c.rest := List.isPrefixOf_iff_prefix.1 hhit
    refine .hit ⟨⟨Nat.le_refl _, (occursAt_offset c).2 hprefix⟩, fun offset h => h.1⟩ ?_
    -- the search goes on at the end of the hit
    obtain ⟨behind, hbehind⟩ := hprefix
    have hadvance := Cursor.advance_of_rest_eq hbehind.symm
    rw [List.length_cons] at hadvance
    have hnext : (c.advance (tail.length + 1)).offset = c.offset + byteLength (head :: tail) := by
      rw [hadvance, Cursor.offset, byteLength_append, byteLength_reverse, Nat.add_comm,
        Cursor.offset]
    rwa [Cursor.text_advance, hnext] at ih
  | case3 c hrest hmiss ih =>
    have hprefix : ¬head :: tail <+: c.rest := fun h => hmiss (List.isPrefixOf_iff_prefix.2 h)
    rw [Cursor.text_advance] at ih
    exact .of_le (c.offset_le_offset_advance 1)
      (fun offset => not_occursAt_of_lt hne hprefix) ih

/-- A search for a needle ends without a fault. It lists the least occurrence, then the least one
behind it, and so on, and every other occurrence starts inside of a hit. -/
theorem isLeftmost_occurrencesOf (text needle : List Char) (hne : needle ≠ []) :
    occurrences text needle 0 = .ok (occurrencesOf needle text) ∧
      IsLeftmost needle text (occurrencesOf needle text) := by
  cases needle with
  | nil => exact absurd rfl hne
  | cons head tail =>
    exact ⟨occurrences_offset head tail (Cursor.start text),
      (hits_occurrencesFrom head tail (Cursor.start text)).isLeftmost hne⟩

/-- Of three occurrences that overlap two are hits, and the one between them starts inside of the
first. -/
theorem isLeftmost_occurrencesOf_overlapping :
    occurrencesOf "aba".toList "ababaaba".toList = [0, 5] ∧
      OccursAt "aba".toList "ababaaba".toList 2 ∧
        ∃ hit ∈ occurrencesOf "aba".toList "ababaaba".toList, hit ≤ 2 ∧ 2 < hit + 3 := by
  have hoccurs : OccursAt "aba".toList "ababaaba".toList 2 := by decide
  refine ⟨by decide +kernel, hoccurs, ?_⟩
  exact (isLeftmost_occurrencesOf "ababaaba".toList "aba".toList (by decide)).2.covers 2 hoccurs

end DesignAtlas.Source.Scan
