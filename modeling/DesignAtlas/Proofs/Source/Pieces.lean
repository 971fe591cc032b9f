import DesignAtlas.Proofs.Text.Places
import DesignAtlas.Source.Lexeme
import Mathlib.Data.List.TakeWhile

/-!
# What the pieces of source text are

The readers of identifiers, blocks and lists are compared with a description of the pieces that
does not read: which characters a piece consists of, how its parentheses count, and what it must
not hold.

* `identifier?_eq_some_iff`: `identifier?` reads the maximal identifier.
* `balanced?_eq_some_iff`: `balanced?` reads up to the parenthesis that closes the first one.
* `semicolon?_eq_some_iff`: `semicolon?` reads blanks and a semicolon.
* `portList?_eq_some_iff`: `portList?` reads up to the first `)` that blanks and a semicolon
  follow, and fails if the word that ends the search comes before it.
-/

namespace DesignAtlas.Source

open Text

/-! ### Characters -/

theorem isIdentifierChar_of_isIdentifierStart {c : Char} (h : isIdentifierStart c = true) :
    isIdentifierChar c = true := by
  simp only [isIdentifierStart, isIdentifierChar, Char.isAlphanum, Bool.or_eq_true] at h ⊢
  tauto

theorem isIdentifierChar_eq_false_of_isBlank {c : Char} (h : isBlank c = true) :
    isIdentifierChar c = false := by
  simp only [isBlank, Bool.or_eq_true, beq_iff_eq] at h
  rcases h with (((h | h) | h) | h) | h <;> subst h <;> decide

theorem isBlank_eq_false_of_isIdentifierChar {c : Char} (h : isIdentifierChar c = true) :
    isBlank c = false := by
  by_contra hb
  rw [isIdentifierChar_eq_false_of_isBlank (by simpa using hb)] at h
  exact Bool.noConfusion h

/-! ### Blanks -/

/-- A text of nothing but ASCII blanks. -/
def IsBlanks (text : List Char) : Prop :=
  ∀ c ∈ text, isBlank c = true

instance (text : List Char) : Decidable (IsBlanks text) :=
  decidable_of_iff (text.all isBlank = true) List.all_eq_true

@[simp]
theorem isBlanks_nil : IsBlanks [] := by
  simp [IsBlanks]

/-- Blanks are skipped. -/
theorem skipBlanks_append {blanks rest : List Char} (h : IsBlanks blanks) :
    skipBlanks (blanks ++ rest) = skipBlanks rest :=
  List.dropWhile_append_of_pos h

/-- Skipping stops at a character that is no blank. -/
theorem skipBlanks_cons {c : Char} {rest : List Char} (h : isBlank c = false) :
    skipBlanks (c :: rest) = c :: rest := by
  simp [skipBlanks, h]

/-- What is skipped are blanks. -/
theorem exists_isBlanks_append_skipBlanks (text : List Char) :
    ∃ blanks, IsBlanks blanks ∧ text = blanks ++ skipBlanks text := by
  refine ⟨text.takeWhile isBlank, fun c hc => ?_, List.takeWhile_append_dropWhile.symm⟩
  exact List.mem_takeWhile_imp hc

/-- Skipping finds the character behind the blanks. -/
theorem skipBlanks_eq_cons_iff {text rest : List Char} {c : Char} :
    skipBlanks text = c :: rest ↔
      isBlank c = false ∧ ∃ blanks, IsBlanks blanks ∧ text = blanks ++ c :: rest := by
  constructor
  · intro h
    obtain ⟨blanks, hblanks, htext⟩ := exists_isBlanks_append_skipBlanks text
    exact ⟨isBlank_of_skipBlanks_eq_cons h, blanks, hblanks, h ▸ htext⟩
  · rintro ⟨hc, blanks, hblanks, rfl⟩
    rw [skipBlanks_append hblanks, skipBlanks_cons hc]

/-! ### Identifiers -/

/-- An identifier: a letter or an underscore, and then letters, digits and underscores. -/
def IsIdentifier (text : List Char) : Prop :=
  text.head?.any isIdentifierStart = true ∧ ∀ c ∈ text, isIdentifierChar c = true

instance (text : List Char) : Decidable (IsIdentifier text) :=
  decidable_of_iff (text.head?.any isIdentifierStart = true ∧ text.all isIdentifierChar = true)
    (and_congr_right fun _ => List.all_eq_true)

theorem IsIdentifier.exists_cons {text : List Char} (h : IsIdentifier text) :
    ∃ c rest, text = c :: rest ∧ isIdentifierStart c = true := by
  cases text with
  | nil => simp [IsIdentifier] at h
  | cons c rest => exact ⟨c, rest, rfl, by simpa using h.1⟩

/-- The reader of identifiers reads the maximal one. -/
theorem identifier?_eq_some_iff {text name rest : List Char} :
    identifier? text = some (name, rest) ↔
      text = name ++ rest ∧ IsIdentifier name ∧ rest.head?.any isIdentifierChar = false := by
  constructor
  · intro h
    refine ⟨eq_append_of_identifier? h, ?_⟩
    cases text with
    | nil => simp [identifier?] at h
    | cons c text =>
      rw [identifier?] at h
      split at h
      · next hc =>
        cases h
        refine ⟨⟨by simpa using hc, ?_⟩, ?_⟩
        · rintro x (_ | ⟨_, hx⟩)
          · exact isIdentifierChar_of_isIdentifierStart hc
          · exact List.mem_takeWhile_imp hx
        · have := List.head?_dropWhile_not isIdentifierChar text
          cases hd : (text.dropWhile isIdentifierChar).head? with
          | none => rfl
          | some x => simpa [hd] using this
      · simp at h
  · rintro ⟨rfl, hname, hrest⟩
    obtain ⟨c, tail, rfl, hc⟩ := hname.exists_cons
    have htail : ∀ x ∈ tail, isIdentifierChar x = true := fun x hx => hname.2 x (by simp [hx])
    have htake : rest.takeWhile isIdentifierChar = [] := by
      cases rest with
      | nil => rfl
      | cons x rest => simp_all
    have hdrop : rest.dropWhile isIdentifierChar = rest := by
      cases rest with
      | nil => rfl
      | cons x rest => simp_all
    rw [List.cons_append, identifier?, if_pos hc, List.takeWhile_append_of_pos htail,
      List.dropWhile_append_of_pos htail, htake, hdrop, List.append_nil]

/-! ### Balanced blocks -/

/-- `inner` ends with the first parenthesis that closes more blocks than it opens, when `outer`
blocks more are open than the one it closes. -/
def Closes (outer : Nat) (inner : List Char) : Prop :=
  inner.count ')' = inner.count '(' + outer + 1 ∧
    ∀ part, part <+: inner → part ≠ inner → part.count ')' ≤ part.count '(' + outer

/-- A block in parentheses: the first parenthesis is closed by the last one and not before. -/
def IsBlock (block : List Char) : Prop :=
  block.head? = some '(' ∧ block.count '(' = block.count ')' ∧
    ∀ part, part <+: block → part ≠ [] → part ≠ block → part.count ')' < part.count '('

theorem closes_cons_iff {outer : Nat} {c : Char} {inner : List Char} :
    Closes outer (c :: inner) ↔
      (c :: inner).count ')' = (c :: inner).count '(' + outer + 1 ∧
        ∀ part, part <+: inner → part ≠ inner →
          (c :: part).count ')' ≤ (c :: part).count '(' + outer := by
  refine and_congr_right fun _ => ⟨fun h part hp hne => ?_, fun h part hp hne => ?_⟩
  · exact h (c :: part) (by simpa using hp) (by simpa using hne)
  · rcases List.prefix_cons_iff.1 hp with rfl | ⟨tail, rfl, htail⟩
    · simp
    · exact h tail htail (by simpa using hne)

theorem not_closes_nil (outer : Nat) : ¬Closes outer [] := by
  rintro ⟨hcount, -⟩
  simp only [List.count_nil] at hcount
  omega

/-- An opening parenthesis opens one block more. -/
theorem closes_open {outer : Nat} {inner : List Char} :
    Closes outer ('(' :: inner) ↔ Closes (outer + 1) inner := by
  rw [closes_cons_iff, Closes]
  simp only [List.count_cons_self, List.count_cons_of_ne (show '(' ≠ ')' by decide)]
  refine and_congr (by omega) (forall_congr' fun part => ?_)
  refine imp_congr_right fun _ => imp_congr_right fun _ => by omega

/-- A closing parenthesis closes the innermost block. -/
theorem closes_close {outer : Nat} {inner : List Char} :
    Closes (outer + 1) (')' :: inner) ↔ Closes outer inner := by
  rw [closes_cons_iff, Closes]
  simp only [List.count_cons_self, List.count_cons_of_ne (show ')' ≠ '(' by decide)]
  refine and_congr (by omega) (forall_congr' fun part => ?_)
  refine imp_congr_right fun _ => imp_congr_right fun _ => by omega

/-- A closing parenthesis that no block inside takes is the end. -/
theorem closes_zero_close {inner : List Char} : Closes 0 (')' :: inner) ↔ inner = [] := by
  constructor
  · rintro ⟨-, hparts⟩
    by_contra hne
    have := hparts [')'] (by simp) (by simpa using Ne.symm hne)
    simp at this
  · rintro rfl
    rw [closes_cons_iff]
    refine ⟨by decide, fun part hp hne => ?_⟩
    exact absurd (List.prefix_nil.1 hp) hne

/-- Other characters do not matter. -/
theorem closes_other {outer : Nat} {c : Char} {inner : List Char} (hopen : c ≠ '(')
    (hclose : c ≠ ')') : Closes outer (c :: inner) ↔ Closes outer inner := by
  rw [closes_cons_iff, Closes]
  simp only [List.count_cons_of_ne hopen, List.count_cons_of_ne hclose]

/-- `closing?` reads up to the parenthesis that closes the innermost open block. -/
theorem closing?_eq_some_iff {outer : Nat} {text rest : List Char} :
    closing? outer text = some rest ↔ ∃ inner, text = inner ++ rest ∧ Closes outer inner := by
  -- the first character read is the first one of `inner`
  have hcons : ∀ {outer : Nat} {c : Char} {text : List Char},
      (∃ inner, c :: text = inner ++ rest ∧ Closes outer inner) ↔
        ∃ inner, text = inner ++ rest ∧ Closes outer (c :: inner) := by
    intro outer c text
    constructor
    · rintro ⟨inner, htext, hinner⟩
      cases inner with
      | nil => exact absurd hinner (not_closes_nil outer)
      | cons x inner =>
        obtain ⟨rfl, htail⟩ := List.cons_eq_cons.1 htext
        exact ⟨inner, htail, hinner⟩
    · rintro ⟨inner, rfl, hinner⟩
      exact ⟨c :: inner, rfl, hinner⟩
  fun_induction closing? outer text with
  | case1 outer =>
    simp only [reduceCtorEq, List.nil_eq_append_iff, false_iff, not_exists, not_and]
    rintro inner ⟨rfl, -⟩
    exact not_closes_nil outer
  | case2 outer text ih =>
    refine Iff.trans ih (Iff.trans ?_ hcons.symm)
    simp only [closes_open]
  | case3 text =>
    rw [hcons]
    simp [closes_zero_close]
  | case4 text outer ih =>
    refine Iff.trans ih (Iff.trans ?_ hcons.symm)
    simp only [closes_close]
  | case5 outer c text hopen hzero hsucc ih =>
    -- the patterns before the last one exclude both parentheses
    have hclose : c ≠ ')' := by
      cases outer with
      | zero => exact fun h => hzero rfl h
      | succ outer => exact fun h => hsucc outer rfl h
    refine Iff.trans ih (Iff.trans ?_ hcons.symm)
    simp only [closes_other hopen hclose]

theorem isBlock_cons_iff {inner : List Char} : IsBlock ('(' :: inner) ↔ Closes 0 inner := by
  simp only [IsBlock, Closes, List.head?_cons, List.count_cons_self, true_and,
    List.count_cons_of_ne (show '(' ≠ ')' by decide)]
  refine and_congr (by omega) ⟨fun h part hp hne => ?_, fun h part hp hnil hne => ?_⟩
  · have := h ('(' :: part) (by simpa using hp) (by simp) (by simpa using hne)
    simp only [List.count_cons_self, List.count_cons_of_ne (show '(' ≠ ')' by decide)] at this
    omega
  · rcases List.prefix_cons_iff.1 hp with rfl | ⟨tail, rfl, htail⟩
    · exact absurd rfl hnil
    · have := h tail htail (by simpa using hne)
      simp only [List.count_cons_self, List.count_cons_of_ne (show '(' ≠ ')' by decide)]
      omega

/-- `balanced?` reads a block. -/
theorem balanced?_eq_some_iff {text rest : List Char} :
    balanced? text = some rest ↔ ∃ block, text = block ++ rest ∧ IsBlock block := by
  constructor
  · intro h
    unfold balanced? at h
    split at h
    · obtain ⟨inner, rfl, hinner⟩ := closing?_eq_some_iff.1 h
      exact ⟨'(' :: inner, rfl, isBlock_cons_iff.2 hinner⟩
    · simp at h
  · rintro ⟨block, rfl, hblock⟩
    obtain ⟨inner, rfl⟩ := List.head?_eq_some_iff.1 hblock.1
    exact closing?_eq_some_iff.2 ⟨inner, rfl, isBlock_cons_iff.1 hblock⟩

/-! ### Lists -/

/-- `semicolon?` reads blanks and a semicolon. -/
theorem semicolon?_eq_some_iff {text rest : List Char} :
    semicolon? text = some rest ↔ ∃ blanks, IsBlanks blanks ∧ text = blanks ++ ';' :: rest := by
  constructor
  · intro h
    unfold semicolon? at h
    split at h
    · next behind hbehind =>
      cases h
      exact (skipBlanks_eq_cons_iff.1 hbehind).2
    · simp at h
  · intro h
    simp only [semicolon?, skipBlanks_eq_cons_iff.2 ⟨by decide, h⟩]

/-- Somewhere in the text stands a `)` that blanks and a semicolon follow. -/
def HoldsListEnd (text : List Char) : Prop :=
  ∃ before blanks behind, IsBlanks blanks ∧ text = before ++ ')' :: (blanks ++ ';' :: behind)

/-- A port list with its semicolon: a list in parentheses that no earlier `)` ends and that does
not hold the word `stop`. -/
def IsPortList (stop : Option (List Char)) (part : List Char) : Prop :=
  ∃ list blanks, part = '(' :: (list ++ ')' :: (blanks ++ [';'])) ∧ IsBlanks blanks ∧
    ¬HoldsListEnd list ∧ ∀ word ∈ stop, ¬word <:+: list

theorem holdsListEnd_cons_iff {c : Char} {text : List Char} :
    HoldsListEnd (c :: text) ↔ (c = ')' ∧ ∃ rest, semicolon? text = some rest) ∨
      HoldsListEnd text := by
  simp only [semicolon?_eq_some_iff]
  constructor
  · rintro ⟨before, blanks, behind, hblanks, htext⟩
    cases before with
    | nil =>
      obtain ⟨rfl, htail⟩ := List.cons_eq_cons.1 htext
      exact .inl ⟨rfl, behind, blanks, hblanks, htail⟩
    | cons x before =>
      obtain ⟨rfl, htail⟩ := List.cons_eq_cons.1 htext
      exact .inr ⟨before, blanks, behind, hblanks, htail⟩
  · rintro (⟨rfl, behind, blanks, hblanks, rfl⟩ | ⟨before, blanks, behind, hblanks, rfl⟩)
    · exact ⟨[], blanks, behind, hblanks, rfl⟩
    · exact ⟨c :: before, blanks, behind, hblanks, rfl⟩

/-- Blanks and a semicolon stand in front of a `)` if anywhere before what is behind it. -/
theorem exists_semicolon?_append_close_iff {list behind : List Char} :
    (∃ rest, semicolon? (list ++ ')' :: behind) = some rest) ↔
      ∃ rest, semicolon? list = some rest := by
  simp only [semicolon?_eq_some_iff]
  constructor
  · rintro ⟨rest, blanks, hblanks, h⟩
    rcases List.append_eq_append_iff.1 h with ⟨more, rfl, hmore⟩ | ⟨more, rfl, hmore⟩
    · cases more with
      | nil => simp at hmore
      | cons x more =>
        obtain ⟨rfl, -⟩ := List.cons_eq_cons.1 hmore
        exact absurd (hblanks ')' (by simp)) (by decide)
    · cases more with
      | nil => simp at hmore
      | cons x more =>
        obtain ⟨rfl, -⟩ := List.cons_eq_cons.1 hmore
        exact ⟨more, blanks, hblanks, rfl⟩
  · rintro ⟨rest, blanks, hblanks, rfl⟩
    exact ⟨rest ++ ')' :: behind, blanks, hblanks, by simp⟩

theorem startsWithStop_iff {stop : Option (List Char)} {text : List Char} :
    startsWithStop stop text = true ↔ ∃ word ∈ stop, word <+: text := by
  simp [startsWithStop, Option.any_eq_true]

/-- The list ends in the text, and `rest` is what stands behind its semicolon. -/
def ListEnds (stop : Option (List Char)) (text rest : List Char) : Prop :=
  ∃ list blanks, text = list ++ ')' :: (blanks ++ ';' :: rest) ∧ IsBlanks blanks ∧
    ¬HoldsListEnd list ∧ ∀ word ∈ stop, ¬word <:+: list

section ListEnds

variable {stop : Option (List Char)} {text rest : List Char} {c : Char}

/-- A text that starts with the word that ends the search has no end of a list. -/
theorem not_listEnds_of_startsWithStop (hstop : ∀ word ∈ stop, ')' ∉ word)
    (h : startsWithStop stop text = true) : ¬ListEnds stop text rest := by
  rintro ⟨list, blanks, rfl, -, -, hfree⟩
  obtain ⟨word, hword, hprefix⟩ := startsWithStop_iff.1 h
  exact hfree word hword (prefix_of_prefix_append_cons (hstop word hword) hprefix).isInfix

/-- A list ends at a `)` with a semicolon behind it. -/
theorem listEnds_close_iff {behind : List Char} (h : startsWithStop stop (')' :: text) ≠ true)
    (hbehind : semicolon? text = some behind) :
    ListEnds stop (')' :: text) rest ↔ behind = rest := by
  constructor
  · rintro ⟨list, blanks, htext, hblanks, hfirst, -⟩
    cases list with
    | nil =>
      have hsame : semicolon? text = some rest :=
        semicolon?_eq_some_iff.2 ⟨blanks, hblanks, (List.cons_eq_cons.1 htext).2⟩
      exact Option.some_inj.1 (hbehind.symm.trans hsame)
    | cons x list =>
      -- a longer list would hold this end of a list
      obtain ⟨rfl, htail⟩ := List.cons_eq_cons.1 htext
      rw [htail] at hbehind
      have hsemicolon := exists_semicolon?_append_close_iff.1 ⟨behind, hbehind⟩
      exact absurd (holdsListEnd_cons_iff.2 (.inl ⟨rfl, hsemicolon⟩)) hfirst
  · rintro rfl
    obtain ⟨blanks, hblanks, rfl⟩ := semicolon?_eq_some_iff.1 hbehind
    refine ⟨[], blanks, rfl, hblanks, ?_, fun word hword hheld => h ?_⟩
    · rintro ⟨before, blanks, behind, -, hnil⟩
      simp at hnil
    · exact startsWithStop_iff.2 ⟨word, hword, by simp [List.infix_nil.1 hheld]⟩

/-- Any other character belongs to the list. -/
theorem listEnds_cons_iff (h : startsWithStop stop (c :: text) ≠ true)
    (hgo : ¬(c = ')' ∧ ∃ behind, semicolon? text = some behind)) :
    ListEnds stop (c :: text) rest ↔ ListEnds stop text rest := by
  constructor
  · rintro ⟨list, blanks, htext, hblanks, hfirst, hfree⟩
    cases list with
    | nil =>
      obtain ⟨rfl, htail⟩ := List.cons_eq_cons.1 htext
      exact absurd ⟨rfl, rest, semicolon?_eq_some_iff.2 ⟨blanks, hblanks, htail⟩⟩ hgo
    | cons x list =>
      obtain ⟨rfl, htail⟩ := List.cons_eq_cons.1 htext
      refine ⟨list, blanks, htail, hblanks, fun hholds => ?_, fun word hword hheld => ?_⟩
      · exact hfirst (holdsListEnd_cons_iff.2 (.inr hholds))
      · exact hfree word hword (hheld.trans (List.suffix_cons c list).isInfix)
  · rintro ⟨list, blanks, rfl, hblanks, hfirst, hfree⟩
    refine ⟨c :: list, blanks, rfl, hblanks, fun hholds => ?_, fun word hword hheld => ?_⟩
    · rcases holdsListEnd_cons_iff.1 hholds with ⟨hc, hsemicolon⟩ | hholds
      · exact hgo ⟨hc, exists_semicolon?_append_close_iff.2 hsemicolon⟩
      · exact hfirst hholds
    · rcases List.infix_cons_iff.1 hheld with hprefix | hheld
      · refine h (startsWithStop_iff.2 ⟨word, hword, hprefix.trans ?_⟩)
        exact List.prefix_append (c :: list) _
      · exact hfree word hword hheld

/-- `listEnd?` finds the first `)` that blanks and a semicolon follow, unless the word that ends
the search comes before it. -/
theorem listEnd?_eq_some_iff (hstop : ∀ word ∈ stop, ')' ∉ word) :
    listEnd? stop text = some rest ↔ ListEnds stop text rest := by
  induction text with
  | nil => simp [listEnd?, ListEnds]
  | cons c text ih =>
    rw [listEnd?]
    -- the word that ends the search is looked for first, then the end of the list
    by_cases hstarts : startsWithStop stop (c :: text) = true
    · rw [if_pos hstarts]
      simp only [reduceCtorEq, false_iff]
      exact not_listEnds_of_startsWithStop hstop hstarts
    rw [if_neg hstarts]
    by_cases hend : c = ')' ∧ ∃ behind, semicolon? text = some behind
    · obtain ⟨rfl, behind, hbehind⟩ := hend
      rw [if_pos rfl, hbehind, Option.some_or, Option.some_inj,
        listEnds_close_iff hstarts hbehind]
    · have hgo : (if c = ')' then (semicolon? text).or (listEnd? stop text)
          else listEnd? stop text) = listEnd? stop text := by
        by_cases hc : c = ')'
        · have hnone : semicolon? text = none :=
            Option.eq_none_iff_forall_ne_some.2 fun behind hbehind => hend ⟨hc, behind, hbehind⟩
          rw [if_pos hc, hnone, Option.none_or]
        · rw [if_neg hc]
      rw [hgo, ih, listEnds_cons_iff hstarts hend]

end ListEnds

/-- `portList?` reads a port list. -/
theorem portList?_eq_some_iff {stop : Option (List Char)} {text rest : List Char}
    (hstop : ∀ word ∈ stop, ')' ∉ word) :
    portList? stop text = some rest ↔ ∃ part, text = part ++ rest ∧ IsPortList stop part := by
  constructor
  · intro h
    unfold portList? at h
    split at h
    · obtain ⟨list, blanks, rfl, hlist⟩ := (listEnd?_eq_some_iff hstop).1 h
      exact ⟨_, by simp, list, blanks, rfl, hlist⟩
    · simp at h
  · rintro ⟨part, rfl, list, blanks, rfl, hlist⟩
    exact (listEnd?_eq_some_iff hstop).2 ⟨list, blanks, by simp, hlist⟩

/-- Without a word that ends the search a list ends somewhere. -/
theorem isSome_listEnd?_none_iff {text : List Char} :
    (listEnd? none text).isSome = true ↔ HoldsListEnd text := by
  induction text with
  | nil => simp [listEnd?, HoldsListEnd]
  | cons c text ih =>
    rw [holdsListEnd_cons_iff, ← ih, listEnd?, if_neg (by simp [startsWithStop])]
    by_cases hc : c = ')'
    · simp [hc, Option.isSome_iff_exists]
    · simp [hc]

end DesignAtlas.Source
