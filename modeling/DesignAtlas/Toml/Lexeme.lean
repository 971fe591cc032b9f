import DesignAtlas.Text.Reader

/-!
# Keys, strings and line ends of TOML

* `key` reads a dotted key, bare or quoted part by part.
* `quotedText` reads a string in any of its four forms.
* `lineEnd` reads what may stand behind an assignment or a header.
-/

namespace DesignAtlas.Toml

open Text Reader

/-- Whether a character is a blank within a line. -/
def isLineBlank (c : Char) : Bool :=
  c == ' ' || c == '\t'

/-- Whether a character may stand in a comment: anything but controls other than the tab. -/
def isPlain (c : Char) : Bool :=
  c == '\t' || (0x20 ≤ c.toNat && c.toNat ≠ 0x7F)

/-- Skip the blanks within a line. -/
def blanks : Reader Unit := do
  let _ ← span isLineBlank

/-- Read a line feed, alone or behind a carriage return. -/
def newline : Reader Unit :=
  word ['\n'] <|> word ['\r', '\n']

/-- Read a comment up to the end of its line. -/
def comment : Reader Unit := do
  let _ ← exactly '#'
  let _ ← span isPlain

/-- Read the rest of a line that holds nothing but blanks and a comment. -/
def lineEnd : Reader Unit := do
  blanks
  let _ ← optional comment
  newline <|> atEnd

/-- Skip blanks, comments and line ends. -/
def anyBlanks : Reader Unit := do
  let _ ← many ((do let _ ← span1 isLineBlank) <|> comment <|> newline)

/-- The value of a hexadecimal digit. -/
def hexValue? (c : Char) : Option Nat :=
  if '0' ≤ c ∧ c ≤ '9' then some (c.toNat - '0'.toNat)
  else if 'a' ≤ c ∧ c ≤ 'f' then some (c.toNat - 'a'.toNat + 10)
  else if 'A' ≤ c ∧ c ≤ 'F' then some (c.toNat - 'A'.toNat + 10)
  else none

/-- Read exactly so many hexadecimal digits and give their value. -/
def hexDigits : (count : Nat) → (value : Nat) → Reader Nat
  | 0, value => return value
  | count + 1, value => do
    let c ← satisfying fun c => (hexValue? c).isSome
    hexDigits count (value * 16 + (hexValue? c).getD 0)

/-- Read the digits of an escaped code point. A surrogate is no character. -/
def codePoint (count : Nat) : Reader Char := do
  let point ← hexDigits count 0
  if point.isValidChar then return Char.ofNat point else failure

/-- Read an escape sequence of a basic string. -/
def escape : Reader Char := do
  let _ ← exactly '\\'
  let c ← satisfying fun _ => true
  match c with
  | 'b' => return '\x08'
  | 't' => return '\t'
  | 'n' => return '\n'
  | 'f' => return '\x0c'
  | 'r' => return '\r'
  | '"' => return '"'
  | '\\' => return '\\'
  | 'u' => codePoint 4
  | 'U' => codePoint 8
  | _ => failure

/-- Read a character that stands for itself in a basic string. -/
def basicChar : Reader Char :=
  satisfying fun c => isPlain c && c != '"' && c != '\\'

/-- Read a character that stands for itself in a literal string. -/
def literalChar : Reader Char :=
  satisfying fun c => isPlain c && c != '\''

/-- Read a basic string on one line. -/
def basicText : Reader String := do
  let _ ← exactly '"'
  let chars ← many (basicChar <|> escape)
  let _ ← exactly '"'
  return String.ofList chars

/-- Read a literal string on one line. -/
def literalText : Reader String := do
  let _ ← exactly '\''
  let chars ← many literalChar
  let _ ← exactly '\''
  return String.ofList chars

/-- Read a line end, which always stands for one line feed. -/
def textNewline : Reader (List Char) := do
  newline
  return ['\n']

/-- Read a backslash at the end of a line, with all blanks and line ends behind it. It stands for
nothing. -/
def continuedLine : Reader (List Char) := do
  let _ ← exactly '\\'
  blanks
  newline
  let _ ← many ((do let _ ← span1 isLineBlank) <|> newline)
  return []

/-- Read one or two quotes inside a string that three quotes end. -/
def innerQuotes (quote : Char) : Reader (List Char) :=
  let other := lookAhead (satisfying (· != quote))
  (word [quote, quote] *> other *> return [quote, quote]) <|>
    (word [quote] *> other *> return [quote])

/-- Read the three quotes that end a string, with up to two quotes of the string before them. -/
def closingQuotes (quote : Char) : Reader (List Char) :=
  let ending := word [quote, quote, quote]
  (word [quote, quote] *> ending *> return [quote, quote]) <|>
    (word [quote] *> ending *> return [quote]) <|>
    (ending *> return [])

/-- Read a string between three quotes. A line end right behind the opening ones is dropped. -/
def longText (quote : Char) (piece : Reader (List Char)) : Reader String := do
  word [quote, quote, quote]
  let _ ← optional newline
  let pieces ← many (piece <|> innerQuotes quote)
  let last ← closingQuotes quote
  return String.ofList (pieces.flatten ++ last)

/-- Read a basic string over several lines. -/
def longBasicText : Reader String :=
  longText '"' ((do return [← basicChar]) <|> continuedLine <|> (do return [← escape]) <|>
    textNewline)

/-- Read a literal string over several lines. -/
def longLiteralText : Reader String :=
  longText '\'' ((do return [← literalChar]) <|> textNewline)

/-- Read a string. -/
def quotedText : Reader String :=
  longBasicText <|> basicText <|> longLiteralText <|> literalText

/-- Whether a character may stand in a bare key. -/
def isBareKeyChar (c : Char) : Bool :=
  c.isAlphanum || c == '_' || c == '-'

/-- Read one part of a key. -/
def keyPart : Reader String :=
  basicText <|> literalText <|> (do return String.ofList (← span1 isBareKeyChar))

/-- The nesting depth that a document must stay below, in values and in keys. -/
def maxDepth : Nat := 80

/-- Read a key: parts with dots between them and blanks around each. -/
def key : Reader (List String) := do
  let parts ← separated1 (do blanks; let part ← keyPart; blanks; return part) (exactly '.')
  if parts.length < maxDepth then return parts else failure

end DesignAtlas.Toml
