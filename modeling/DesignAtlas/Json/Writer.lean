import DesignAtlas.Json.Value

/-!
# Writing JSON

The text of a JSON value, on one line or indented by two spaces a level. In the indented layout
every item stands on a line of its own, and an empty array or object stays on the line.
-/

namespace DesignAtlas.Json

/-- How a value is laid out. -/
inductive Layout where
  /-- On one line, without blanks. -/
  | compact
  /-- One item a line. -/
  | indented
  deriving DecidableEq, Repr

namespace Layout

/-- What stands before an item at a depth. -/
def lineBreak (layout : Layout) (depth : Nat) : List Char :=
  match layout with
  | compact => []
  | indented => '\n' :: List.replicate (2 * depth) ' '

/-- What stands between the name and the value of a field. -/
def colon (layout : Layout) : List Char :=
  match layout with
  | compact => [':']
  | indented => [':', ' ']

end Layout

/-- The lower-case hexadecimal digit for a number below sixteen. -/
def hexDigit (n : Nat) : Char :=
  if n < 10 then Char.ofNat ('0'.toNat + n) else Char.ofNat ('a'.toNat + (n - 10))

/-- A character as it stands between the quotes of a string. Quotes, backslashes and the controls
below the blank are escaped, everything else stands for itself. -/
def escapeChar (c : Char) : List Char :=
  if c = '"' then ['\\', '"']
  else if c = '\\' then ['\\', '\\']
  else if c = '\x08' then ['\\', 'b']
  else if c = '\x0c' then ['\\', 'f']
  else if c = '\n' then ['\\', 'n']
  else if c = '\r' then ['\\', 'r']
  else if c = '\t' then ['\\', 't']
  else if c.toNat < 0x20 then
    ['\\', 'u', '0', '0', hexDigit (c.toNat / 16), hexDigit (c.toNat % 16)]
  else [c]

/-- A string between quotes. -/
def quoted (s : String) : List Char :=
  '"' :: (s.toList.flatMap escapeChar ++ ['"'])

mutual

/-- The text of a value whose line is at the given depth. -/
def writeValue (layout : Layout) (depth : Nat) : Value → List Char
  | .null => ['n', 'u', 'l', 'l']
  | .number n => Nat.toDigits 10 n
  | .text s => quoted s
  | .list [] => ['[', ']']
  | .list (item :: items) =>
    '[' :: (layout.lineBreak (depth + 1) ++ writeValue layout (depth + 1) item ++
      writeItems layout (depth + 1) items ++ layout.lineBreak depth ++ [']'])
  | .object [] => ['\x7b', '\x7d']
  | .object ((name, value) :: fields) =>
    '\x7b' :: (layout.lineBreak (depth + 1) ++ quoted name ++ layout.colon ++
      writeValue layout (depth + 1) value ++ writeFields layout (depth + 1) fields ++
      layout.lineBreak depth ++ ['\x7d'])

/-- The text of the further items of an array, each behind a comma. -/
def writeItems (layout : Layout) (depth : Nat) : List Value → List Char
  | [] => []
  | item :: items =>
    ',' :: (layout.lineBreak depth ++ writeValue layout depth item ++
      writeItems layout depth items)

/-- The text of the further fields of an object, each behind a comma. -/
def writeFields (layout : Layout) (depth : Nat) : List (String × Value) → List Char
  | [] => []
  | (name, value) :: fields =>
    ',' :: (layout.lineBreak depth ++ quoted name ++ layout.colon ++
      writeValue layout depth value ++ writeFields layout depth fields)

end

/-- The text of a value. -/
def Value.write (layout : Layout) (value : Value) : String :=
  String.ofList (writeValue layout 0 value)

end DesignAtlas.Json
