import DesignAtlas.Json.Value
import DesignAtlas.Toml.Lexeme

/-!
# Reading JSON

A reader of JSON as it is standardized in RFC 8259. It takes every JSON text, also those that no
document of a project is made of: numbers with signs, fractions and exponents, truth values,
blanks anywhere between the tokens, and escaped characters in any of their forms.

* `Node`: what a JSON text stands for.
* `numeral`, `string`, `value`: the grammar.
* `read?`: the value of a text, if it is a JSON text.
-/

namespace DesignAtlas.Json

open Text Reader

/-- The parts of a number. -/
structure Numeral where
  /-- Whether a minus sign stands in front. -/
  negative : Bool
  /-- The number in front of the point. -/
  whole : Nat
  /-- The digits behind the point. -/
  fraction : List Char
  /-- The power of ten. -/
  exponent : Int
  deriving DecidableEq, Repr

/-- The value of a JSON text. The fields of an object keep the order they are written in. -/
inductive Node where
  /-- The absent value. -/
  | null
  /-- A truth value. -/
  | truth (holds : Bool)
  /-- A number. -/
  | number (n : Numeral)
  /-- A string. -/
  | text (s : String)
  /-- An array. -/
  | list (items : List Node)
  /-- An object. -/
  | object (fields : List (String × Node))

/-! ### Blanks -/

/-- Whether a character may stand between tokens. -/
def isBlank (c : Char) : Bool :=
  c == ' ' || c == '\t' || c == '\n' || c == '\r'

/-- Skip the blanks in front of what is read. -/
def spaced {α : Type} (r : Reader α) : Reader α :=
  span isBlank *> r

/-- Read a character between tokens that separates or encloses. -/
def mark (c : Char) : Reader Char :=
  spaced (exactly c)

/-! ### Numbers -/

/-- The number that decimal digits stand for. -/
def digitsValue (digits : List Char) : Nat :=
  Nat.ofDigitChars 10 digits 0

/-- Read the number in front of the point. Only zero starts with a zero. -/
def whole : Reader Nat :=
  (exactly '0' *> pure 0) <|> do
    let first ← satisfying fun c => c.isDigit && c != '0'
    let others ← span Char.isDigit
    return digitsValue (first :: others)

/-- Read a point and the digits behind it. -/
def fraction : Reader (List Char) :=
  exactly '.' *> span1 Char.isDigit

/-- Read a power of ten. -/
def exponent : Reader Int := do
  let _ ← satisfying fun c => c == 'e' || c == 'E'
  let sign ← optional (satisfying fun c => c == '+' || c == '-')
  let digits ← span1 Char.isDigit
  return if sign = some '-' then -(digitsValue digits) else digitsValue digits

/-- Read a number. -/
def numeral : Reader Numeral := do
  let sign ← optional (exactly '-')
  let whole ← whole
  let fraction ← optional fraction
  let exponent ← optional exponent
  return ⟨sign.isSome, whole, fraction.getD [], exponent.getD 0⟩

/-! ### Strings -/

/-- Read the digits of an escaped character. A character above the first plane is written as two
surrogates, and a surrogate alone is no character. -/
def codePoint : Reader Char := do
  let high ← Toml.hexDigits 4 0
  if 0xD800 ≤ high ∧ high < 0xDC00 then
    let _ ← word ['\\', 'u']
    let low ← Toml.hexDigits 4 0
    if 0xDC00 ≤ low ∧ low < 0xE000 then
      return Char.ofNat (0x10000 + (high - 0xD800) * 0x400 + (low - 0xDC00))
    else failure
  else if high.isValidChar then return Char.ofNat high
  else failure

/-- The character that a letter behind a backslash stands for. -/
def escaped? : Char → Option Char
  | '"' => some '"'
  | '\\' => some '\\'
  | '/' => some '/'
  | 'b' => some '\x08'
  | 'f' => some '\x0c'
  | 'n' => some '\n'
  | 'r' => some '\r'
  | 't' => some '\t'
  | _ => none

/-- Read what stands behind a backslash. -/
def escape : Reader Char := do
  let c ← satisfying fun _ => true
  if c = 'u' then codePoint
  else match escaped? c with
    | some meant => return meant
    | none => failure

/-- Whether a character stands for itself in a string. Controls do not. -/
def isPlain (c : Char) : Bool :=
  0x20 ≤ c.toNat && c != '"' && c != '\\'

/-- Read a character of a string. -/
def character : Reader Char :=
  (exactly '\\' *> escape) <|> satisfying isPlain

/-- Read a string. -/
def string : Reader String := do
  let characters ← exactly '"' *> many character <* exactly '"'
  return String.ofList characters

/-! ### Values -/

/-- Read items between brackets, with commas between them. -/
def bracketed {α : Type} (opening closing : Char) (item : Reader α) : Reader (List α) :=
  exactly opening *> (separated1 item (mark ',') <|> pure []) <* mark closing

/-- Read a field of an object. -/
def field (inner : Reader Node) : Reader (String × Node) := do
  let name ← spaced string
  let _ ← mark ':'
  let value ← spaced inner
  return (name, value)

/-- Read a value that starts with a given character, with a reader of the values inside it. -/
def valueFrom (inner : Reader Node) : (first : Char) → Reader Node
  | '"' => Node.text <$> string
  | '[' => Node.list <$> bracketed '[' ']' (spaced inner)
  | '\x7b' => Node.object <$> bracketed '\x7b' '\x7d' (field inner)
  | 'n' => word ['n', 'u', 'l', 'l'] *> pure .null
  | 't' => word ['t', 'r', 'u', 'e'] *> pure (.truth true)
  | 'f' => word ['f', 'a', 'l', 's', 'e'] *> pure (.truth false)
  | _ => Node.number <$> numeral

/-- Read a value that is nested no deeper than a bound. -/
def value : (depth : Nat) → Reader Node
  | 0 => failure
  | depth + 1 => do
    let first ← lookAhead (satisfying fun _ => true)
    valueFrom (value depth) first

/-- Read a whole text. Every level of nesting has a character of its own, so no value is nested
deeper than its text is long. -/
def read? (text : String) : Option Node :=
  readAll (spaced (value text.toList.length) <* span isBlank) text.toList

example : read? "\x7b\"\\u00E9\" : [-2.5e3, true, \"\\ud83d\\ude00\\/\"] \x7d" =
    some (.object [("é", .list [.number ⟨true, 2, ['5'], 3⟩, .truth true, .text "😀/"])]) := by
  cbv

example : ["[1,]", "01", "[1 2]", "\"\\ud83d\"", "\"\n\"", ""].filterMap read? = [] := by cbv

end DesignAtlas.Json
