import DesignAtlas.Shell.Pattern

/-!
# Fields

What becomes of an expanded word: it is divided into fields at the characters that a shell takes for
separators. A separator that is no blank ends a field even if nothing stands before it.

* `fieldsOfAtoms` divides an expanded word.
* `lineFields` divides a line among so many names.
-/

namespace DesignAtlas.Shell

/-- A part of an expanded word. -/
inductive Atom where
  /-- A character, which can divide fields if it comes from something that was put in. -/
  | char (c : Char) (quoted divides : Bool)
  /-- A place where quotes stood. -/
  | mark
  /-- The end of one of several values. Outside quotes, it is a separator like a blank. -/
  | gap (quoted : Bool)
  /-- The end of what was put in. -/
  | edge
  deriving DecidableEq, Repr

/-- The characters that divide fields. -/
structure Separators where
  /-- The text that names them. -/
  text : ByteText
  deriving DecidableEq, Repr

namespace Separators

/-- The separators where none are named. -/
def standard : Separators := ⟨" \t\n"⟩

/-- Whether a character is one of the separators where none are named. -/
def isGap (c : Char) : Bool :=
  c == ' ' || c == '\t' || c == '\n'

/-- Whether a character divides fields. -/
def divides (s : Separators) (c : Char) : Bool :=
  s.text.toList.contains c

/-- The text between values that are put together. -/
def between (s : Separators) : ByteText :=
  String.ofList (s.text.toList.take 1)

end Separators

/-- What stands behind the end of a field. -/
inductive Behind where
  /-- A blank separator. Another separator may follow and belongs to it. -/
  | blank
  /-- Any other separator. -/
  | other
  deriving DecidableEq, Repr

/-- The kind of separator that an atom is, if it is one. -/
def Atom.separator? (s : Separators) : Atom → Option Behind
  | .char c _ true =>
    if s.divides c then some (if Separators.isGap c then .blank else .other) else none
  | .gap false => some .blank
  | _ => none

/-- Divide an expanded word into fields. A field without characters counts only where quotes stood
or where a separator that is no blank ends it. -/
def fieldsOfAtoms (s : Separators) :
    (behind : Option Behind) → (field : Option (List PatternChar)) → List Atom →
      List (List PatternChar)
  | _, field, [] => (field.map List.reverse).toList
  | behind, field, a :: rest =>
    match a.separator? s, a with
    | some kind, _ =>
      match field, behind, kind with
      -- Separators behind one another: blanks belong together, with one other separator.
      | none, some _, .blank => fieldsOfAtoms s behind none rest
      | none, some .blank, .other => fieldsOfAtoms s (some .other) none rest
      | none, some .other, .other => [] :: fieldsOfAtoms s (some .other) none rest
      | none, none, .blank => fieldsOfAtoms s none none rest
      | none, none, .other => [] :: fieldsOfAtoms s (some .other) none rest
      | some chars, _, kind => chars.reverse :: fieldsOfAtoms s (some kind) none rest
    | none, .char c quoted _ =>
      fieldsOfAtoms s none (some (⟨c, quoted⟩ :: field.getD [])) rest
    | none, .mark => fieldsOfAtoms s none (some (field.getD [])) rest
    | none, .gap _ => (field.map List.reverse).toList ++ fieldsOfAtoms s none none rest
    | none, .edge => fieldsOfAtoms s none field rest

/-- The characters of an expanded word. Values are divided by a text. -/
def charsOf (between : ByteText) (atoms : List Atom) : List PatternChar :=
  atoms.flatMap fun a =>
    match a with
    | .char c quoted _ => [⟨c, quoted⟩]
    | .gap quoted => between.toList.map fun c => ⟨c, quoted⟩
    | _ => []

/-- The text of an expanded word. -/
def textOfAtoms (between : ByteText) (atoms : List Atom) : ByteText :=
  String.ofList ((charsOf between atoms).map (·.char))

/-- The text of characters. -/
def textOfChars (chars : List PatternChar) : ByteText :=
  String.ofList (chars.map (·.char))

/-! ### Lines -/

/-- A text without the separators behind it that belong to its end: blanks, and one other separator
if it is the only thing that stands behind the text besides them. -/
def withoutEnd (s : Separators) (line : List PatternChar) : List PatternChar :=
  let isBlank (c : PatternChar) : Bool :=
    !c.quoted && s.divides c.char && Separators.isGap c.char
  let isOther (c : PatternChar) : Bool :=
    !c.quoted && s.divides c.char && !Separators.isGap c.char
  let trimmed := (line.reverse.dropWhile isBlank).reverse
  match trimmed.reverse with
  | last :: before =>
    let start := before.dropWhile isBlank
    let inner := start.reverse
    if isOther last && !(inner.any fun c => isBlank c || isOther c) then inner else trimmed
  | [] => []

/-- Divide a line among so many names. The last one takes all that is left. -/
def lineFields (s : Separators) : (count : Nat) → List PatternChar → List ByteText
  | 0, _ => []
  | count + 1, line =>
    let divides (c : PatternChar) : Bool := !c.quoted && s.divides c.char
    let isBlank (c : PatternChar) : Bool := divides c && Separators.isGap c.char
    let line := line.dropWhile isBlank
    if count = 0 then [textOfChars (withoutEnd s line)]
    else
      let field := line.takeWhile fun c => !divides c
      let behind := line.drop field.length
      let behind :=
        match behind.dropWhile isBlank with
        | c :: rest => if divides c then rest.dropWhile isBlank else c :: rest
        | [] => []
      textOfChars field :: lineFields s count behind

end DesignAtlas.Shell
