import DesignAtlas.Text.Blank

/-!
# Pieces of source text

Readers for the pieces that headers and instantiations are made of. Each takes the text from some
place on and gives what is left behind the piece, or nothing if the piece does not stand there.

* `identifier?` reads a maximal identifier.
* `closing?` finds the parenthesis that closes an opened block.
* `portList?` reads a parenthesised list up to the first `)` that a semicolon follows.

Each reader leaves a suffix of its text, and a shorter one.
-/

namespace DesignAtlas.Source

open Text

/-- Whether an identifier can start with this character. -/
def isIdentifierStart (c : Char) : Bool :=
  c.isAlpha || c == '_'

/-- Whether an identifier can go on with this character. -/
def isIdentifierChar (c : Char) : Bool :=
  c.isAlphanum || c == '_'

/-- Whether an identifier can start behind this character: it does not itself continue one. -/
def isBoundary (previous : Option Char) : Bool :=
  !previous.any isIdentifierChar

/-- The maximal identifier at the start of a text and the text behind it. -/
def identifier? : List Char → Option (List Char × List Char)
  | [] => none
  | c :: rest =>
    if isIdentifierStart c then
      some (c :: rest.takeWhile isIdentifierChar, rest.dropWhile isIdentifierChar)
    else none

/-- The text behind the parenthesis that closes the innermost open block, where `outer` blocks
opened since still have to be closed first. -/
def closing? : (outer : Nat) → List Char → Option (List Char)
  | _, [] => none
  | outer, '(' :: rest => closing? (outer + 1) rest
  | 0, ')' :: rest => some rest
  | outer + 1, ')' :: rest => closing? outer rest
  | outer, _ :: rest => closing? outer rest

/-- The text behind a balanced block, if the text starts with one. -/
def balanced? : List Char → Option (List Char)
  | '(' :: rest => closing? 0 rest
  | _ => none

/-- The text behind a semicolon that only blanks precede. -/
def semicolon? (text : List Char) : Option (List Char) :=
  match skipBlanks text with
  | ';' :: rest => some rest
  | _ => none

/-- Whether the word that ends a search stands at the start of a text. -/
def startsWithStop (stop : Option (List Char)) (text : List Char) : Bool :=
  stop.any (·.isPrefixOf text)

/-- The text behind the first `)` that a semicolon follows, and behind that semicolon. The `)` is
looked for only before the first `stop`. -/
def listEnd? (stop : Option (List Char)) : List Char → Option (List Char)
  | [] => none
  | c :: rest =>
    if startsWithStop stop (c :: rest) then none
    else if c = ')' then (semicolon? rest).or (listEnd? stop rest)
    else listEnd? stop rest

/-- The text behind a parenthesised list and its semicolon, if the text starts with one.
Parentheses inside the list are not paired. -/
def portList? (stop : Option (List Char)) : List Char → Option (List Char)
  | '(' :: rest => listEnd? stop rest
  | _ => none

/-- Reading an identifier loses nothing. -/
theorem eq_append_of_identifier? {text name rest : List Char}
    (h : identifier? text = some (name, rest)) : text = name ++ rest := by
  cases text with
  | nil => simp [identifier?] at h
  | cons c text =>
    rw [identifier?] at h
    split at h
    · cases h
      simp
    · simp at h

/-- What `closing?` leaves is a suffix of the text. -/
theorem closing?_suffix {outer : Nat} {text rest : List Char}
    (h : closing? outer text = some rest) : rest <:+ text := by
  fun_induction closing? outer text with
  | case1 => simp at h
  | case2 outer text ih => exact (ih h).trans (List.suffix_cons _ _)
  | case3 text =>
    cases h
    exact List.suffix_cons _ _
  | case4 text outer ih => exact (ih h).trans (List.suffix_cons _ _)
  | case5 outer c text _ _ _ ih => exact (ih h).trans (List.suffix_cons _ _)

theorem balanced?_suffix {text rest : List Char} (h : balanced? text = some rest) :
    rest <:+ text := by
  unfold balanced? at h
  split at h
  · exact (closing?_suffix h).trans (List.suffix_cons _ _)
  · simp at h

theorem semicolon?_suffix {text rest : List Char} (h : semicolon? text = some rest) :
    rest <:+ text := by
  unfold semicolon? at h
  split at h
  · next r hr =>
    cases h
    exact ((List.suffix_cons ';' _).trans (hr ▸ List.suffix_rfl)).trans (skipBlanks_suffix text)
  · simp at h

theorem listEnd?_suffix {stop : Option (List Char)} {text rest : List Char}
    (h : listEnd? stop text = some rest) : rest <:+ text := by
  induction text with
  | nil => simp [listEnd?] at h
  | cons c text ih =>
    rw [listEnd?] at h
    split at h
    · simp at h
    · split at h
      · rcases Option.or_eq_some_iff.1 h with h | ⟨_, h⟩
        · exact (semicolon?_suffix h).trans (List.suffix_cons _ _)
        · exact (ih h).trans (List.suffix_cons _ _)
      · exact (ih h).trans (List.suffix_cons _ _)

theorem portList?_suffix {stop : Option (List Char)} {text rest : List Char}
    (h : portList? stop text = some rest) : rest <:+ text := by
  unfold portList? at h
  split at h
  · exact (listEnd?_suffix h).trans (List.suffix_cons _ _)
  · simp at h

end DesignAtlas.Source
