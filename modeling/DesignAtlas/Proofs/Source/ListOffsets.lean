import DesignAtlas.Proofs.Source.ScanSafety
import DesignAtlas.Proofs.Source.WordOffsets
import Mathlib.Data.Nat.Find
import Mathlib.Order.Bounds.Defs

/-!
# Where lists end

A list in parentheses ends at a `)` with a semicolon behind it, and it does not hold the stop word.
The search for its end does not look at each such `)` for the stop word: it goes no further than to
the first one. That finds the same end, for a stop word in front of one `)` stands in front of all
that follow.

* `CanEndAt`: a list may end at an offset.
* `ClosesList.next_le`: ends of lists do not overlap.
* `portListAt?_eq_some_iff`, `isLeast_canEndAt_iff`: the end that is found, told by what the list
  must not hold, is the first one.
* `endsList_portListAt?`: the end of the list that opens at an offset.
-/

namespace DesignAtlas.Source.Scan

open Text Offset

/-- At an offset stands a `)` that only blanks separate from a semicolon, and `next` is the offset
behind the semicolon. -/
def ClosesList (text : List Char) (close next : Nat) : Prop :=
  ∃ blanks, IsBlanks blanks ∧ OccursAt (')' :: (blanks ++ [';'])) text close ∧
    close + byteLength (')' :: (blanks ++ [';'])) = next

/-- The list that opens at an offset can end at another one. -/
structure CanEndAt (stop : Option (List Char)) (text : List Char) (opening close next : Nat) :
    Prop where
  /-- The end lies behind the opening parenthesis. -/
  behind : opening < close
  /-- A `)` stands there, and a semicolon behind it. -/
  closes : ClosesList text close next
  /-- The stop word does not stand in between. -/
  free : ∀ word ∈ stop, ¬HoldsWithin word text opening close

/-- Where the list that opens at an offset ends, if it does. -/
structure EndsList (stop : Option (List Char)) (text : List Char) (opening : Nat)
    (found : Option Nat) : Prop where
  /-- It ends behind the semicolon of the first `)` at which it can end. -/
  least : ∀ next, found = some next ↔ OccursAt ['('] text opening ∧
    ∃ close, IsLeast {offset | ∃ next, CanEndAt stop text opening offset next} close ∧
      CanEndAt stop text opening close next
  /-- It ends exactly if a list opens and can end anywhere. -/
  isSome_iff : found.isSome = true ↔
    OccursAt ['('] text opening ∧ ∃ close next, CanEndAt stop text opening close next
  /-- If the stop word stands in front of a `)`, then the list can end there or at a later one no
  more, and an end that is found lies in front of it. -/
  stopped : ∀ close next, opening < close → ClosesList text close next →
    (∃ word ∈ stop, HoldsWithin word text opening close) →
      (∀ close' next', close ≤ close' → ¬CanEndAt stop text opening close' next') ∧
        ∀ last ∈ found, last ≤ close

/-! ### Ends of lists -/

variable {stop : Option (List Char)} {text : List Char} {opening close next : Nat}

/-- Between two offsets stands what stands between the first and an earlier one. -/
theorem HoldsWithin.mono {word : List Char} {start last last' : Nat}
    (h : HoldsWithin word text start last) (hle : last ≤ last') :
    HoldsWithin word text start last' := by
  obtain ⟨offset, hstart, hlast, hoccurs⟩ := h
  exact ⟨offset, hstart, hlast.trans hle, hoccurs⟩

/-- A `)` with its semicolon ends before the next one. -/
theorem ClosesList.next_le {close' next' : Nat} (h : ClosesList text close next)
    (h' : ClosesList text close' next') (hlt : close < close') : next ≤ close' := by
  obtain ⟨blanks, hblanks, hoccurs, rfl⟩ := h
  obtain ⟨blanks', -, hoccurs', -⟩ := h'
  obtain ⟨front, behind, htext, rfl⟩ := (occursAt_iff (List.cons_ne_nil _ _)).1 hoccurs
  obtain ⟨front', behind', htext', rfl⟩ := (occursAt_iff (List.cons_ne_nil _ _)).1 hoccurs'
  obtain ⟨between, rfl, hbetween⟩ :=
    exists_append_of_byteLength_le (htext.symm.trans htext') hlt.le
  rw [byteLength_append] at hlt ⊢
  -- else the second parenthesis would stand among the blanks or be the semicolon
  refine Nat.add_le_add_left (Nat.le_of_not_lt fun hinside => ?_) _
  obtain ⟨more, hmore, hbehind⟩ := exists_append_of_byteLength_le hbetween.symm hinside.le
  cases between with
  | nil => simp at hlt
  | cons x between =>
    cases more with
    | nil =>
      rw [hmore, List.append_nil] at hinside
      exact absurd hinside (Nat.lt_irrefl _)
    | cons y more =>
      obtain ⟨rfl, -⟩ := List.cons_eq_cons.1 hbehind
      have hmem : ')' ∈ blanks ++ [';'] := by
        rw [(List.cons_eq_cons.1 hmore).2]
        simp
      rcases List.mem_append.1 hmem with hblank | hsemicolon
      · exact absurd (hblanks ')' hblank) (by decide)
      · simp at hsemicolon

section Cuts

variable {before rest : List Char}

/-- A word without an opening parenthesis stands in a list exactly if it stands behind the
parenthesis that opens the list. -/
theorem holdsWithin_list_iff {word list behind : List Char} (hword : '(' ∉ word) :
    HoldsWithin word (before ++ '(' :: (list ++ behind)) (byteLength before)
      (byteLength (before ++ '(' :: list)) ↔ word <:+: list := by
  have hsplit : HoldsWithin word (before ++ ('(' :: list ++ behind)) (byteLength before)
      (byteLength before + byteLength ('(' :: list)) ↔ word <:+: '(' :: list := holdsWithin_iff
  rw [← byteLength_append, List.cons_append] at hsplit
  have hopen : word <:+: [] ++ '(' :: list ↔ word <:+: [] ∨ word <:+: list :=
    infix_append_cons_iff hword
  rw [hsplit, ← List.nil_append ('(' :: list), hopen, or_iff_right_of_imp]
  intro hnil
  rw [List.infix_nil.1 hnil]
  exact List.nil_infix

/-- The list behind an opening parenthesis can end at a `)` with a semicolon behind it, if the list
in front does not hold the stop word. -/
theorem canEndAt_iff (hstop : ∀ word ∈ stop, '(' ∉ word) :
    CanEndAt stop (before ++ '(' :: rest) (byteLength before) close next ↔
      ∃ list blanks behind, rest = list ++ ')' :: (blanks ++ ';' :: behind) ∧ IsBlanks blanks ∧
        (∀ word ∈ stop, ¬word <:+: list) ∧ byteLength (before ++ '(' :: list) = close ∧
          close + byteLength (')' :: (blanks ++ [';'])) = next := by
  constructor
  · rintro ⟨hlt, ⟨blanks, hblanks, hoccurs, rfl⟩, hfree⟩
    obtain ⟨front, behind, htext, rfl⟩ := (occursAt_iff (List.cons_ne_nil _ _)).1 hoccurs
    obtain ⟨between, rfl, hrest⟩ := exists_append_of_byteLength_le htext hlt.le
    cases between with
    | nil => simp at hlt
    | cons x list =>
      obtain ⟨rfl, rfl⟩ := List.cons_eq_cons.1 hrest
      refine ⟨list, blanks, behind, by simp, hblanks, fun word hword hheld => ?_, rfl, rfl⟩
      exact hfree word hword ((holdsWithin_list_iff (hstop word hword)).2 hheld)
  · rintro ⟨list, blanks, behind, rfl, hblanks, hfree, rfl, rfl⟩
    refine ⟨?_, ⟨blanks, hblanks, ?_, rfl⟩, fun word hword hheld => hfree word hword ?_⟩
    · rw [byteLength_append, byteLength_cons]
      have := Char.utf8Size_pos '('
      omega
    · have htext : before ++ '(' :: (list ++ ')' :: (blanks ++ ';' :: behind)) =
          (before ++ '(' :: list) ++ (')' :: (blanks ++ [';']) ++ behind) := by
        simp
      rw [htext, occursAt_append]
      exact List.prefix_append _ _
    · exact (holdsWithin_list_iff (hstop word hword)).1 hheld

/-- The list in front of the first `)` at which it can end holds no end of a list, and in front of
any other it holds one. -/
theorem isLeast_canEndAt_iff (hstop : ∀ word ∈ stop, '(' ∉ word) {list blanks behind : List Char}
    (hblanks : IsBlanks blanks) (hfree : ∀ word ∈ stop, ¬word <:+: list)
    (hrest : rest = list ++ ')' :: (blanks ++ ';' :: behind)) :
    IsLeast {offset | ∃ next, CanEndAt stop (before ++ '(' :: rest) (byteLength before) offset next}
      (byteLength (before ++ '(' :: list)) ↔ ¬HoldsListEnd list := by
  simp only [canEndAt_iff hstop]
  constructor
  · rintro hleast ⟨front, blanks', behind', hblanks', rfl⟩
    -- the list could end inside of itself
    have hearlier : byteLength (before ++ '(' :: (front ++ ')' :: (blanks' ++ ';' :: behind'))) ≤
        byteLength (before ++ '(' :: front) := by
      refine hleast.2 ⟨_, front, blanks', behind' ++ ')' :: (blanks ++ ';' :: behind), ?_, hblanks',
        fun word hword hheld => hfree word hword ?_, rfl, rfl⟩
      · rw [hrest]
        simp
      · exact hheld.trans (List.prefix_append front _).isInfix
    simp only [byteLength_append, byteLength_cons] at hearlier
    have := Char.utf8Size_pos ')'
    omega
  · intro hfirst
    refine ⟨⟨_, list, blanks, behind, hrest, hblanks, hfree, rfl, rfl⟩, ?_⟩
    rintro offset ⟨_, front, blanks', behind', hrest', hblanks', -, rfl, -⟩
    refine Nat.le_of_not_lt fun hlt => hfirst ?_
    simp only [byteLength_append, byteLength_cons] at hlt
    obtain ⟨between, rfl, hbetween⟩ :=
      exists_append_of_byteLength_le (hrest'.symm.trans hrest) (by omega)
    cases between with
    | nil => simp at hlt
    | cons x between =>
      -- the earlier end lies in the list
      obtain ⟨rfl, htail⟩ := List.cons_eq_cons.1 hbetween
      obtain ⟨rest, hsemicolon⟩ : ∃ rest, Source.semicolon? between = some rest :=
        exists_semicolon?_append_close_iff.1
          ⟨behind', semicolon?_eq_some_iff.2 ⟨blanks', hblanks', htail.symm⟩⟩
      obtain ⟨blanks'', hblanks'', rfl⟩ := semicolon?_eq_some_iff.1 hsemicolon
      exact ⟨front, blanks'', rest, hblanks'', rfl⟩

/-- The end that is found: the list in front of it holds no end and no stop word. -/
theorem portListAt?_eq_some_iff (hstop : ∀ word ∈ stop, ')' ∉ word) :
    portListAt? stop (before ++ '(' :: rest) (byteLength before) = some next ↔
      ∃ list blanks behind, rest = list ++ ')' :: (blanks ++ ';' :: behind) ∧ IsBlanks blanks ∧
        ¬HoldsListEnd list ∧ (∀ word ∈ stop, ¬word <:+: list) ∧
          byteLength (before ++ '(' :: list) + byteLength (')' :: (blanks ++ [';'])) = next := by
  have hread : portListAt? stop (before ++ '(' :: rest) (byteLength before) =
      (Source.listEnd? stop rest).map (ofRest (before ++ '(' :: rest)) := by
    rw [portListAt?, Cursor.at?_append]
    exact Option.map_eq_bind.symm
  -- what is left behind the list tells the offset
  have hoffset : ∀ list blanks behind, rest = list ++ ')' :: (blanks ++ ';' :: behind) →
      ofRest (before ++ '(' :: rest) behind =
        byteLength (before ++ '(' :: list) + byteLength (')' :: (blanks ++ [';'])) := by
    rintro list blanks behind rfl
    have htext : before ++ '(' :: (list ++ ')' :: (blanks ++ ';' :: behind)) =
        (before ++ '(' :: list) ++ ')' :: (blanks ++ [';']) ++ behind := by
      simp
    rw [htext, ofRest_append, byteLength_append]
  rw [hread, Option.map_eq_some_iff]
  simp only [listEnd?_eq_some_iff hstop]
  constructor
  · rintro ⟨behind, ⟨list, blanks, hrest, hblanks, hfirst, hfree⟩, rfl⟩
    exact ⟨list, blanks, behind, hrest, hblanks, hfirst, hfree,
      (hoffset list blanks behind hrest).symm⟩
  · rintro ⟨list, blanks, behind, hrest, hblanks, hfirst, hfree, rfl⟩
    exact ⟨behind, ⟨list, blanks, hrest, hblanks, hfirst, hfree⟩,
      hoffset list blanks behind hrest⟩

end Cuts

/-! ### The end of a list -/

/-- Where no list opens none is read. -/
theorem portListAt?_eq_none (h : ¬OccursAt ['('] text opening) :
    portListAt? stop text opening = none := by
  refine Option.eq_none_iff_forall_ne_some.2 fun next hnext => h ?_
  rw [portListAt?] at hnext
  obtain ⟨c, hc, hread⟩ := Option.bind_eq_some_iff.1 hnext
  obtain ⟨behind, hbehind, -⟩ := Option.bind_eq_some_iff.1 hread
  obtain ⟨rfl, rfl⟩ := Cursor.at?_eq_some hc
  unfold Source.portList? at hbehind
  split at hbehind
  · next list hlist => exact (occursAt_offset c).2 (hlist ▸ List.prefix_append ['('] list)
  · cases hbehind

/-- The end that is found is that of the first `)` at which the list can end. -/
theorem portListAt?_eq_some_iff_isLeast (hstop : ∀ word ∈ stop, '(' ∉ word ∧ ')' ∉ word) :
    portListAt? stop text opening = some next ↔ OccursAt ['('] text opening ∧
      ∃ close, IsLeast {offset | ∃ next, CanEndAt stop text opening offset next} close ∧
        CanEndAt stop text opening close next := by
  by_cases hopening : OccursAt ['('] text opening
  · obtain ⟨before, rest, rfl, rfl⟩ := (occursAt_iff (List.cons_ne_nil _ _)).1 hopening
    have hopen : ∀ word ∈ stop, '(' ∉ word := fun word hword => (hstop word hword).1
    rw [List.singleton_append, portListAt?_eq_some_iff fun word hword => (hstop word hword).2]
    constructor
    · rintro ⟨list, blanks, behind, hrest, hblanks, hfirst, hfree, rfl⟩
      exact ⟨hopening, byteLength (before ++ '(' :: list),
        (isLeast_canEndAt_iff hopen hblanks hfree hrest).2 hfirst,
        (canEndAt_iff hopen).2 ⟨list, blanks, behind, hrest, hblanks, hfree, rfl, rfl⟩⟩
    · rintro ⟨-, close, hleast, hends⟩
      obtain ⟨list, blanks, behind, hrest, hblanks, hfree, rfl, rfl⟩ := (canEndAt_iff hopen).1 hends
      have hfirst := (isLeast_canEndAt_iff hopen hblanks hfree hrest).1 hleast
      exact ⟨list, blanks, behind, hrest, hblanks, hfirst, hfree, rfl⟩
  · rw [portListAt?_eq_none hopening]
    exact iff_of_false nofun fun h => hopening h.1

/-- From an offset on a character boundary the search for the end of a list goes on without a fault.
It finds the semicolon of the first `)` at which the list can end: blanks and the semicolon stand
behind it and no stop word in front. -/
theorem endsList_portListAt? (stop : Option (List Char)) (text : List Char) (opening : Nat)
    (hboundary : IsBoundary text opening) (hstop : ∀ word ∈ stop, '(' ∉ word ∧ ')' ∉ word) :
    portList? text stop opening = .ok (portListAt? stop text opening) ∧
      EndsList stop text opening (portListAt? stop text opening) := by
  refine ⟨?_, fun next => portListAt?_eq_some_iff_isLeast hstop, ?_, ?_⟩
  · obtain ⟨c, hc⟩ := Option.isSome_iff_exists.1 hboundary
    obtain ⟨rfl, rfl⟩ := Cursor.at?_eq_some hc
    exact ((isSafeAt_offset c).list stop).1
  · simp only [Option.isSome_iff_exists, portListAt?_eq_some_iff_isLeast hstop]
    constructor
    · rintro ⟨next, hopening, close, -, hends⟩
      exact ⟨hopening, close, next, hends⟩
    · rintro ⟨hopening, hends⟩
      classical
      obtain ⟨next, hnext⟩ := Nat.find_spec hends
      exact ⟨next, hopening, Nat.find hends,
        ⟨⟨next, hnext⟩, fun offset hoffset => Nat.find_min' hends hoffset⟩, hnext⟩
  · -- a stop word in front of one end stands in front of all later ones
    rintro close next hlt hcloses ⟨word, hword, hheld⟩
    have hlater : ∀ close' next', close ≤ close' → ¬CanEndAt stop text opening close' next' :=
      fun close' next' hle hends => hends.free word hword (hheld.mono hle)
    refine ⟨hlater, fun last hlast => ?_⟩
    obtain ⟨-, first, -, hends⟩ := (portListAt?_eq_some_iff_isLeast hstop).1 hlast
    exact hends.closes.next_le hcloses (Nat.lt_of_not_le fun hle => hlater first last hle hends)

/-- A `)` that another one follows ends no list, and none behind the stop word is looked at. -/
theorem endsList_portListAt?_stopped :
    IsBoundary "(a (b) ) ; endmodule );".toList 0 ∧
      (∀ word ∈ some "endmodule".toList, '(' ∉ word ∧ ')' ∉ word) ∧
        ∃ close,
          IsLeast {offset | ∃ next, CanEndAt (some "endmodule".toList)
            "(a (b) ) ; endmodule );".toList 0 offset next} close ∧
          CanEndAt (some "endmodule".toList) "(a (b) ) ; endmodule );".toList 0 close 10 := by
  have hboundary : IsBoundary "(a (b) ) ; endmodule );".toList 0 := by decide
  have hstop : ∀ word ∈ some "endmodule".toList, '(' ∉ word ∧ ')' ∉ word := by decide
  have hfound : portListAt? (some "endmodule".toList) "(a (b) ) ; endmodule );".toList 0 =
      some 10 := by decide
  exact ⟨hboundary, hstop, (((endsList_portListAt? _ _ 0 hboundary hstop).2.least 10).1 hfound).2⟩

end DesignAtlas.Source.Scan
