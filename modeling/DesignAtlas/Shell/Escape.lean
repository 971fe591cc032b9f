import DesignAtlas.Shell.ByteText

/-!
# Escapes

Texts in which a backslash and what follows it stand for other bytes. What does not mean anything
stands for itself.

* `escapeMeaning` is the meaning of one escape, `escaped` a text with all its escapes replaced.
-/

namespace DesignAtlas.Shell

/-- Where a text with escapes stands. -/
inductive EscapeStyle where
  /-- In a text that is written in the plain dialect. -/
  | plainText
  /-- In a format in the plain dialect. -/
  | plainFormat
  /-- In a text that is written in the rich dialect. -/
  | richText
  /-- In an argument for a format in the rich dialect. -/
  | richArgument
  /-- In a format in the rich dialect. -/
  | richFormat
  /-- Between quotes behind a dollar sign. -/
  | dollar
  deriving DecidableEq, Repr

namespace EscapeStyle

/-- Whether hexadecimal numbers and more letters have a meaning. -/
def isRich : EscapeStyle → Bool
  | plainText => false
  | plainFormat => false
  | _ => true

/-- Whether an escape can end the text. -/
def canEnd : EscapeStyle → Bool
  | plainText => true
  | richText => true
  | richArgument => true
  | _ => false

end EscapeStyle

/-- The number that digits of a base below 17 stand for. -/
def digitsValue (base : Nat) (digits : List Char) : Nat :=
  digits.foldl (fun n c =>
    let value :=
      if c.isDigit then c.toNat - 48 else if c.isUpper then c.toNat - 55 else c.toNat - 87
    n * base + value) 0

/-- Whether a character is a hexadecimal digit. -/
def isHexDigit (c : Char) : Bool :=
  c.isDigit || ('a' ≤ c && c ≤ 'f') || ('A' ≤ c && c ≤ 'F')

/-- Whether a character is an octal digit. -/
def isOctalDigit (c : Char) : Bool :=
  '0' ≤ c && c ≤ '7'

/-- The byte that a number stands for. -/
def byteText (n : Nat) : ByteText :=
  (Char.ofNat (n % 256)).toString

/-- The text of the character of a code. Characters beyond the first 128 cannot be written here, so
they stay escaped. -/
def codeText (code : Nat) : ByteText :=
  let digits := (String.ofList (Nat.toDigits 16 code)).map Char.toUpper
  if code < 128 then byteText code
  else if code < 65536 then "\\u" ++ "".pushn '0' (4 - digits.length) ++ digits
  else "\\U" ++ "".pushn '0' (8 - digits.length) ++ digits

/-- The bytes that letters behind a backslash stand for. -/
def escapeLetters : List (Char × Char) :=
  [('a', '\x07'), ('b', '\x08'), ('e', '\x1b'), ('f', '\x0c'), ('n', '\n'), ('r', '\r'),
    ('t', '\t'), ('v', '\x0b'), ('\\', '\\')]

/-- The octal digits of an escape, with the number of characters before them. -/
def octalEscape (style : EscapeStyle) (text : List Char) : Option (Nat × List Char) :=
  let digits (text : List Char) : List Char := (text.take 3).takeWhile isOctalDigit
  match text with
  | '0' :: rest =>
    match style with
    | .plainFormat => some (0, digits text)
    | .richFormat => some (0, digits text)
    | .dollar => some (0, digits text)
    | _ => some (1, digits rest)
  | c :: _ => if isOctalDigit c && style != .richText then some (0, digits text) else none
  | [] => none

/-- What an escape behind a backslash stands for and how many characters it takes. There is nothing
if the text ends here. -/
def escapeMeaning (style : EscapeStyle) (text : List Char) : Option (ByteText × Nat) :=
  let hexadecimal (letter : Char) (count : Nat) (rest : List Char)
      (meaning : Nat → ByteText) : ByteText × Nat :=
    let digits := (rest.take count).takeWhile isHexDigit
    if digits.isEmpty then ("\\" ++ letter.toString, 1)
    else (meaning (digitsValue 16 digits), 1 + digits.length)
  match text with
  | [] => some ("\\", 0)
  | c :: rest =>
    match escapeLetters.lookup c, octalEscape style text with
    | some byte, _ => some (byte.toString, 1)
    | none, some (before, digits) =>
      some (byteText (digitsValue 8 digits), before + digits.length)
    | none, none =>
      if c = 'c' ∧ style.canEnd then none
      else if !style.isRich then some ("\\", 0)
      else
        match c, rest with
        | 'E', _ => some ("\x1b", 1)
        | 'x', rest => some (hexadecimal 'x' 2 rest byteText)
        | 'u', rest => some (hexadecimal 'u' 4 rest codeText)
        | 'U', rest => some (hexadecimal 'U' 8 rest codeText)
        | 'c', control :: _ => if style = .dollar then some (byteText (control.toNat % 32), 2)
          else some ("\\", 0)
        | c, _ =>
          if (c = '"' ∨ c = '\x27' ∨ c = '?') ∧ style ≠ .richText then some (c.toString, 1)
          else some ("\\", 0)

/-- A text with its escapes replaced. -/
structure Escaped where
  /-- The text. -/
  text : ByteText
  /-- Whether no escape ended it. -/
  goesOn : Bool
  deriving DecidableEq, Repr

/-- Replace the escapes of a text. -/
def escapedWithin (style : EscapeStyle) : (fuel : Nat) → List Char → Escaped
  | 0, _ => ⟨"", true⟩
  | fuel + 1, text =>
    let before := text.takeWhile (· != '\\')
    match text.drop before.length with
    | [] => ⟨String.ofList before, true⟩
    | _ :: rest =>
      match escapeMeaning style rest with
      | none => ⟨String.ofList before, false⟩
      | some (meaning, length) =>
        let others := escapedWithin style fuel (rest.drop length)
        ⟨String.ofList before ++ meaning ++ others.text, others.goesOn⟩

/-- Replace the escapes of a text. -/
def escaped (style : EscapeStyle) (text : List Char) : Escaped :=
  escapedWithin style (text.length + 1) text

end DesignAtlas.Shell
