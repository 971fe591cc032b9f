import DesignAtlas.Text.Search
import Mathlib.Data.List.Basic
import Mathlib.Data.List.Infix

/-!
# Places in a text and first occurrences

A text is walked place by place: `Cursor.places` lists the places between its characters, the end
included. An offset in bytes belongs to one place at most, and a needle has one first occurrence.

* `eq_of_byteLength_eq`: the offset of a cut determines the cut.
* `infix_append_cons_iff`: a word does not reach over a character that it does not hold.
* `cut?_eq_some_iff`: `cut?` cuts around the first occurrence of its needle.
* `IsFirstCut.append`: a first occurrence behind a stretch without the needle.
* `Cursor.mem_places_iff`, `Cursor.pairwise_offset_places`: the places are all cuts of the text, in
  increasing order of offset.
-/

namespace DesignAtlas.Text

theorem byteLength_eq_zero_iff {text : List Char} : byteLength text = 0 ↔ text = [] := by
  cases text with
  | nil => simp
  | cons c rest =>
    have := Char.utf8Size_pos c
    simp only [byteLength_cons, reduceCtorEq, iff_false]
    omega

/-- Of two cuts of a text the one at the smaller offset in bytes comes first. -/
theorem exists_append_of_byteLength_le {a b c d : List Char} (h : a ++ b = c ++ d)
    (hle : byteLength a ≤ byteLength c) : ∃ between, c = a ++ between ∧ b = between ++ d := by
  rcases List.append_eq_append_iff.1 h with ⟨between, hc, hb⟩ | ⟨between, ha, hd⟩
  · exact ⟨between, hc, hb⟩
  · -- the first cut would lie behind the second one, so nothing lies between them
    have hzero : byteLength between = 0 := by
      rw [ha, byteLength_append] at hle
      omega
    rw [byteLength_eq_zero_iff] at hzero
    subst hzero
    exact ⟨[], by simp [ha], by simp [hd]⟩

/-- The offset of a cut determines the cut. -/
theorem eq_of_byteLength_eq {a b c d : List Char} (h : a ++ b = c ++ d)
    (hlen : byteLength a = byteLength c) : a = c ∧ b = d := by
  obtain ⟨between, hc, hb⟩ := exists_append_of_byteLength_le h hlen.le
  have hzero : byteLength between = 0 := by
    rw [hc, byteLength_append] at hlen
    omega
  rw [byteLength_eq_zero_iff] at hzero
  subst hzero
  exact ⟨by simpa using hc.symm, by simpa using hb⟩

/-! ### Words around a character they do not hold -/

/-- A word that starts a text ends before the first character that it does not hold. -/
theorem prefix_of_prefix_append_cons {word front back : List Char} {c : Char} (hc : c ∉ word)
    (h : word <+: front ++ c :: back) : word <+: front := by
  obtain ⟨rest, hrest⟩ := h
  rcases List.append_eq_append_iff.1 hrest with ⟨more, hfront, -⟩ | ⟨more, hword, hmore⟩
  · exact ⟨more, hfront.symm⟩
  · cases more with
    | nil => exact ⟨[], by simp [hword]⟩
    | cons x more =>
      obtain ⟨rfl, -⟩ := List.cons_eq_cons.1 hmore
      exact absurd (by simp [hword]) hc

/-- Around a character that a word does not hold, the word lies on one side. -/
theorem infix_append_cons_iff {word front back : List Char} {c : Char} (hc : c ∉ word) :
    word <:+: front ++ c :: back ↔ word <:+: front ∨ word <:+: back := by
  constructor
  · intro h
    induction front with
    | nil =>
      rcases List.infix_cons_iff.1 h with h | h
      · exact .inl (prefix_of_prefix_append_cons hc h).isInfix
      · exact .inr h
    | cons x front ih =>
      -- the word starts at `x`, or it stands behind it
      rcases List.infix_cons_iff.1 h with h | h
      · have hprefix : word <+: (x :: front) ++ c :: back := h
        exact .inl (prefix_of_prefix_append_cons hc hprefix).isInfix
      · exact (ih h).imp_left fun h => List.infix_cons_iff.2 (.inr h)
  · rintro (h | h)
    · exact h.trans (List.prefix_append _ _).isInfix
    · exact (h.trans (List.suffix_cons c back).isInfix).trans (List.suffix_append _ _).isInfix

/-! ### First occurrences -/

/-- `before` and `behind` are the parts of a text around the first occurrence of `needle`. -/
def IsFirstCut (needle text before behind : List Char) : Prop :=
  text = before ++ (needle ++ behind) ∧
    ∀ before' behind', text = before' ++ (needle ++ behind') → before.length ≤ before'.length

/-- A needle that starts the text has its first occurrence there. -/
theorem isFirstCut_of_prefix {needle behind before' behind' : List Char} :
    IsFirstCut needle (needle ++ behind) before' behind' ↔ before' = [] ∧ behind' = behind := by
  constructor
  · rintro ⟨htext, hfirst⟩
    have hnil : before' = [] := List.eq_nil_of_length_eq_zero (by simpa using hfirst [] behind rfl)
    subst hnil
    exact ⟨rfl, by simpa using htext.symm⟩
  · rintro ⟨rfl, rfl⟩
    exact ⟨rfl, fun _ _ _ => Nat.zero_le _⟩

/-- A needle that does not start the text has its first occurrence in the rest of the text. -/
theorem isFirstCut_cons {needle rest before behind : List Char} {c : Char}
    (h : ¬needle <+: c :: rest) :
    IsFirstCut needle (c :: rest) before behind ↔
      ∃ inner, before = c :: inner ∧ IsFirstCut needle rest inner behind := by
  constructor
  · rintro ⟨htext, hfirst⟩
    cases before with
    | nil => exact absurd ⟨behind, htext.symm⟩ h
    | cons x inner =>
      obtain ⟨rfl, hrest⟩ := List.cons_eq_cons.1 htext
      refine ⟨inner, rfl, hrest, fun before' behind' h' => ?_⟩
      simpa using hfirst (c :: before') behind' (by simp [h'])
  · rintro ⟨inner, rfl, hrest, hfirst⟩
    refine ⟨by simp [hrest], fun before' behind' h' => ?_⟩
    cases before' with
    | nil => exact absurd ⟨behind', h'.symm⟩ h
    | cons x inner' =>
      simpa using hfirst inner' behind' (List.cons_eq_cons.1 h').2

/-- `cut?` cuts a text around the first occurrence of its needle, and fails if there is none. -/
theorem cut?_eq_some_iff {needle text before behind : List Char} :
    cut? needle text = some (before, behind) ↔ IsFirstCut needle text before behind := by
  induction text generalizing before with
  | nil =>
    cases needle with
    | nil => simp +contextual [cut?, IsFirstCut, eq_comm]
    | cons x needle => simp [cut?, IsFirstCut]
  | cons c rest ih =>
    by_cases hp : needle <+: c :: rest
    · obtain ⟨tail, ht⟩ := hp
      rw [cut?, if_pos (by simp [← ht]), ← ht, isFirstCut_of_prefix]
      simp [eq_comm]
    · rw [cut?, if_neg (by simpa using hp), isFirstCut_cons hp, Option.map_eq_some_iff]
      constructor
      · rintro ⟨⟨b, r⟩, hb, hr⟩
        cases hr
        exact ⟨b, rfl, ih.1 hb⟩
      · rintro ⟨b, rfl, hb⟩
        exact ⟨(b, behind), ih.2 hb, rfl⟩

/-- A text can be cut around a needle exactly if it holds the needle. -/
theorem isSome_cut?_iff {needle text : List Char} :
    (cut? needle text).isSome = true ↔ needle <:+: text := by
  induction text with
  | nil =>
    cases needle with
    | nil => simp [cut?]
    | cons x needle => simp [cut?]
  | cons c rest ih =>
    rw [cut?, List.infix_cons_iff, ← ih]
    by_cases hp : needle <+: c :: rest
    · simp [hp]
    · simp [hp]

/-- A text of the form `before`, needle, `behind` is cut there if no occurrence of the needle
reaches into `before` without lying inside of it, and none lies inside. -/
theorem isFirstCut_of_last {needle before behind : List Char} {last : Char}
    (hlast : last ∉ needle) (hfree : ¬needle <:+: before) :
    IsFirstCut needle (before ++ last :: (needle ++ behind)) (before ++ [last]) behind := by
  refine ⟨by simp, fun before' behind' h => ?_⟩
  by_contra hlt
  -- an earlier occurrence ends before `last`, which no needle holds
  have hle : before'.length ≤ before.length := by
    simp only [List.length_append, List.length_singleton] at hlt
    omega
  obtain ⟨between, hb, ht⟩ : ∃ between, before = before' ++ between ∧
      needle ++ behind' = between ++ last :: (needle ++ behind) := by
    rcases List.append_eq_append_iff.1 h with ⟨between, hb, ht⟩ | ⟨between, hb, ht⟩
    · have hnil : between = [] := by
        have := congrArg List.length hb
        rw [List.length_append] at this
        exact List.eq_nil_of_length_eq_zero (by omega)
      subst hnil
      exact ⟨[], by simpa using hb.symm, by simpa using ht.symm⟩
    · exact ⟨between, hb, ht⟩
  rcases List.append_eq_append_iff.1 ht with ⟨more, hbetween, -⟩ | ⟨more, hneedle, hmore⟩
  · exact hfree ⟨before', more, by rw [hb, hbetween, List.append_assoc]⟩
  · cases more with
    | nil => exact hfree ⟨before', [], by rw [hb, hneedle]; simp⟩
    | cons x more =>
      obtain ⟨rfl, -⟩ := List.cons_eq_cons.1 hmore
      exact hlast (by rw [hneedle]; simp)

/-- If the needle behind a text makes its only occurrence, then that is the first one whatever
follows. -/
theorem isFirstCut_append {needle before : List Char}
    (honly : ∀ before' behind', before ++ needle = before' ++ (needle ++ behind') → behind' = [])
    (behind : List Char) : IsFirstCut needle (before ++ (needle ++ behind)) before behind := by
  refine ⟨rfl, fun before' behind' h => ?_⟩
  by_contra hlt
  -- an earlier occurrence ends before the needle does, so all of it was there without `behind`
  have hcut : (before ++ needle) ++ behind = (before' ++ needle) ++ behind' := by
    simpa using h
  rcases List.append_eq_append_iff.1 hcut with ⟨more, hmore, -⟩ | ⟨more, hmore, -⟩
  · have hlength := congrArg List.length hmore
    simp only [List.length_append] at hlength
    omega
  · have hnil : more = [] := honly before' more (by simpa using hmore)
    have hlength := congrArg List.length hmore
    simp only [hnil, List.length_append, List.length_nil] at hlength
    omega

/-- A stretch that does not hold the needle leaves the first occurrence behind it where it is, if
the needle cannot reach over the character at the stretch's end. -/
theorem IsFirstCut.append {needle front text before behind : List Char} {last : Char}
    (h : IsFirstCut needle text before behind) (hlast : last ∉ needle)
    (hfree : ¬needle <:+: front) :
    IsFirstCut needle (front ++ last :: text) (front ++ last :: before) behind := by
  induction front with
  | nil =>
    refine (isFirstCut_cons fun hprefix => hfree ?_).2 ⟨before, rfl, h⟩
    have hnil : needle <+: [] := prefix_of_prefix_append_cons hlast hprefix
    exact hnil.isInfix
  | cons c front ih =>
    have hrest : ¬needle <:+: front := fun held =>
      hfree (held.trans (List.suffix_cons c front).isInfix)
    refine (isFirstCut_cons fun hprefix => hfree ?_).2 ⟨_, rfl, ih hrest⟩
    have hfront : needle <+: c :: front := prefix_of_prefix_append_cons hlast hprefix
    exact hfront.isInfix

end DesignAtlas.Text

namespace DesignAtlas.Cursor

open Text

/-- The place of a cut is the one at the cut's offset. -/
theorem eq_of_text_eq {c : Cursor} {before rest : List Char} (htext : c.text = before ++ rest)
    (hoffset : byteLength before = c.offset) : before = c.before.reverse ∧ rest = c.rest := by
  refine eq_of_byteLength_eq (htext.symm.trans rfl) ?_
  rw [hoffset, byteLength_reverse, offset]

theorem offset_le_offset_advance (c : Cursor) (count : Nat) :
    c.offset ≤ (c.advance count).offset := by
  simp [advance, offset]

/-- Moving forward in a text that goes on gets to a later offset. -/
theorem offset_lt_offset_advance {c : Cursor} (hrest : c.rest ≠ []) (count : Nat) :
    c.offset < (c.advance (count + 1)).offset := by
  obtain ⟨x, rest, hx⟩ := List.exists_cons_of_ne_nil hrest
  have hsize := Char.utf8Size_pos x
  simp only [advance, offset, hx, List.take_succ_cons, List.reverse_cons, byteLength_append,
    byteLength_reverse, byteLength_cons, byteLength_nil]
  omega

/-- Moving to what is left arrives behind everything before it. -/
theorem offset_moveTo {c : Cursor} {before rest : List Char} (hsuffix : rest <:+ c.rest)
    (htext : c.text = before ++ rest) : (c.moveTo rest).offset = byteLength before := by
  have h := text_moveTo c rest
  rw [htext, text, rest_moveTo hsuffix, List.append_left_inj] at h
  rw [← h, byteLength_reverse, offset]

/-- The places from the one between `before` and `rest` on, where `before` has its nearest
character first. -/
def places (before : List Char) : (rest : List Char) → List Cursor
  | [] => [⟨before, []⟩]
  | c :: rest => ⟨before, c :: rest⟩ :: places (c :: before) rest

/-- The places are the cuts of the text. -/
theorem mem_places_iff {before rest : List Char} {c : Cursor} :
    c ∈ places before rest ↔
      ∃ skipped, rest = skipped ++ c.rest ∧ c.before = skipped.reverse ++ before := by
  induction rest generalizing before with
  | nil =>
    simp only [places, List.mem_singleton, List.nil_eq_append_iff]
    constructor
    · rintro rfl
      exact ⟨[], ⟨rfl, rfl⟩, rfl⟩
    · rintro ⟨skipped, ⟨rfl, hrest⟩, hbefore⟩
      cases c
      simp_all
  | cons x rest ih =>
    simp only [places, List.mem_cons, ih]
    constructor
    · rintro (rfl | ⟨skipped, hrest, hbefore⟩)
      · exact ⟨[], rfl, rfl⟩
      · exact ⟨x :: skipped, by simp [hrest], by simp [hbefore]⟩
    · rintro ⟨skipped, hrest, hbefore⟩
      cases skipped with
      | nil =>
        left
        cases c
        simp_all
      | cons y skipped =>
        obtain ⟨rfl, hinner⟩ := List.cons_eq_cons.1 hrest
        exact .inr ⟨skipped, hinner, by simpa using hbefore⟩

/-- From the start of a text on the places are all cuts of the text. -/
theorem mem_places_start_iff {text : List Char} {c : Cursor} :
    c ∈ places [] text ↔ c.text = text := by
  rw [mem_places_iff]
  constructor
  · rintro ⟨skipped, rfl, hbefore⟩
    simp [Cursor.text, hbefore]
  · rintro rfl
    exact ⟨c.before.reverse, rfl, by simp⟩

/-- The places come in increasing order of offset. -/
theorem pairwise_offset_places (before rest : List Char) :
    (places before rest).Pairwise fun c d => c.offset < d.offset := by
  induction rest generalizing before with
  | nil => simp [places]
  | cons x rest ih =>
    refine List.pairwise_cons.2 ⟨fun d hd => ?_, ih (x :: before)⟩
    obtain ⟨skipped, -, hbefore⟩ := mem_places_iff.1 hd
    have := Char.utf8Size_pos x
    simp only [offset, hbefore, byteLength_append, byteLength_cons]
    omega

/-- A stretch of text at no place of which `f` finds anything can be left out. -/
theorem filterMap_places_append {α : Type} {f : Cursor → Option α} {before stretch rest : List Char}
    (h : ∀ done left, stretch = done ++ left → left ≠ [] →
      f ⟨done.reverse ++ before, left ++ rest⟩ = none) :
    (places before (stretch ++ rest)).filterMap f =
      (places (stretch.reverse ++ before) rest).filterMap f := by
  induction stretch generalizing before with
  | nil => rfl
  | cons x stretch ih =>
    -- `stretch` shrinks from the left, and what was passed is added to `done`
    have hx : f ⟨before, x :: (stretch ++ rest)⟩ = none := h [] (x :: stretch) rfl (by simp)
    rw [List.cons_append, places, List.filterMap_cons_none hx, ih]
    · simp
    · intro done left hstretch hleft
      simpa using h (x :: done) left (by simp [hstretch]) hleft

/-- Moving forward by the length of a stretch arrives behind it. -/
theorem advance_of_rest_eq {c : Cursor} {skipped rest : List Char}
    (h : c.rest = skipped ++ rest) :
    c.advance skipped.length = ⟨skipped.reverse ++ c.before, rest⟩ := by
  simp [advance, h]

theorem advance_one {c : Cursor} {x : Char} {rest : List Char} (h : c.rest = x :: rest) :
    c.advance 1 = ⟨x :: c.before, rest⟩ :=
  advance_of_rest_eq (show c.rest = [x] ++ rest from h)

end DesignAtlas.Cursor
