/-!
# Readers

A reader takes something from the start of a text and gives it along with the text behind it, or
fails and takes nothing. Readers are combined in `do` blocks; an alternative starts again where
the failed reader started.

* `many` repeats a reader as long as it takes anything, so it ends on every text.
-/

namespace DesignAtlas.Text

/-- What a reader makes of a text: a value and the text behind it, or nothing. -/
abbrev Reader (α : Type) : Type :=
  StateT (List Char) Option α

namespace Reader

/-- What a reader makes of a whole text. -/
def readAll {α : Type} (r : Reader α) (text : List Char) : Option α :=
  match r.run text with
  | some (a, []) => some a
  | _ => none

/-- Take one character that satisfies a condition. -/
def satisfying (holds : Char → Bool) : Reader Char := fun text =>
  match text with
  | [] => none
  | c :: rest => if holds c then some (c, rest) else none

/-- Take one given character. -/
def exactly (c : Char) : Reader Char :=
  satisfying (· == c)

/-- Take a given text. -/
def word (wanted : List Char) : Reader Unit := fun text =>
  if wanted.isPrefixOf text then some ((), text.drop wanted.length) else none

/-- Take the characters that satisfy a condition, up to the first that does not. -/
def span (holds : Char → Bool) : Reader (List Char) := fun text =>
  some (text.takeWhile holds, text.dropWhile holds)

/-- Take one character and more that satisfy a condition, up to the first that does not. -/
def span1 (holds : Char → Bool) : Reader (List Char) := do
  let first ← satisfying holds
  let others ← span holds
  return first :: others

/-- Take nothing at the end of the text. -/
def atEnd : Reader Unit := fun text =>
  match text with
  | [] => some ((), [])
  | _ => none

/-- Find out what a reader takes, without taking it. -/
def lookAhead {α : Type} (r : Reader α) : Reader α := fun text =>
  (r.run text).map fun found => (found.1, text)

/-- What a reader takes again and again, and the text behind all of it. -/
def repeated {α : Type} (r : Reader α) (text : List Char) : List α × List Char :=
  match r.run text with
  | none => ([], text)
  | some (a, rest) =>
    if rest.length < text.length then
      let (others, behind) := repeated r rest
      (a :: others, behind)
    else ([], text)
termination_by text.length

/-- Take as often as a reader takes anything. -/
def many {α : Type} (r : Reader α) : Reader (List α) := fun text =>
  some (repeated r text)

/-- Take one and more items with a separator between them. -/
def separated1 {α β : Type} (item : Reader α) (separator : Reader β) : Reader (List α) := do
  let first ← item
  let others ← many (separator *> item)
  return first :: others

end Reader

end DesignAtlas.Text
