import DesignAtlas.Source.Lexeme
import DesignAtlas.Text.Search

/-!
# Reading at an offset

The readers of source text addressed by offsets in bytes. An offset inside a character or past the
end starts nothing. Results are offsets again, and they lie on character boundaries because every
reader leaves a suffix of the text.
-/

namespace DesignAtlas.Source.Offset

open Text

/-- The offset in `text` where the suffix `rest` begins. -/
def ofRest (text rest : List Char) : Nat :=
  byteLength text - byteLength rest

/-- Whether an identifier can start at an offset: the byte before it continues none. -/
def isBoundaryAt (text : List Char) (offset : Nat) : Bool :=
  isBoundary (charsBefore offset text).getLast?

/-- The first offset from the given one on that holds no ASCII blank. -/
def skipBlanksAt (text : List Char) (offset : Nat) : Nat :=
  match Cursor.at? text offset with
  | some c => ofRest text (skipBlanks c.rest)
  | none => offset

/-- The identifier at an offset, and the offset behind it. -/
def identifierAt? (text : List Char) (offset : Nat) : Option (List Char × Nat) := do
  let c ← Cursor.at? text offset
  let (name, rest) ← identifier? c.rest
  return (name, ofRest text rest)

/-- The offset behind the block that the parenthesis at an offset opens. -/
def balancedAt? (text : List Char) (offset : Nat) : Option Nat := do
  let c ← Cursor.at? text offset
  let rest ← balanced? c.rest
  return ofRest text rest

/-- The offset behind the list that the parenthesis at an offset opens and behind its semicolon. -/
def portListAt? (stop : Option (List Char)) (text : List Char) (offset : Nat) : Option Nat := do
  let c ← Cursor.at? text offset
  let rest ← portList? stop c.rest
  return ofRest text rest

/-- The number of line feeds before an offset. -/
def lineAt (text : List Char) (offset : Nat) : Nat :=
  (charsBefore offset text).count '\n'

/-- The offsets where a needle stands, from left to right and without overlap. -/
def occurrencesOf (needle text : List Char) : List Nat :=
  (occurrences needle text).map Cursor.offset

end DesignAtlas.Source.Offset
