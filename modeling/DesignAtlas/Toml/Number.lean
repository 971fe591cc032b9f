import DesignAtlas.Text.Reader
import DesignAtlas.Toml.Value

/-!
# Numbers and dates of TOML

* `integer` reads the integers of 64 bits, in decimal with a sign or in base 16, 8 or 2 without.
* `float` reads floats that do not overflow upwards, and the named infinities and NaNs.
* `dateTime` reads days that exist, times of day, and both together.
-/

namespace DesignAtlas.Toml

open Text Reader

/-- The value of a digit in bases up to sixteen. -/
def digitValue (c : Char) : Nat :=
  if c.isDigit then c.toNat - '0'.toNat
  else if c.isLower then c.toNat - 'a'.toNat + 10
  else c.toNat - 'A'.toNat + 10

/-- The number that digits write. -/
def numberOf (base : Nat) (digits : List Char) : Nat :=
  digits.foldl (fun n c => n * base + digitValue c) 0

/-- Whether a character is a digit of a base up to sixteen. -/
def isDigitOf (base : Nat) (c : Char) : Bool :=
  c.isAlphanum && digitValue c < base

/-- Read digits. Single underscores may stand between them. -/
def digits (base : Nat) : Reader (List Char) := do
  let first ← satisfying (isDigitOf base)
  let others ← many (optional (exactly '_') *> satisfying (isDigitOf base))
  return first :: others

/-- Read a sign, if there is one, and tell whether it is a minus. -/
def sign : Reader Bool := do
  match ← optional (satisfying fun c => c == '+' || c == '-') with
  | some '-' => return true
  | _ => return false

/-- Read the digits of a decimal integer. Only zero starts with a zero. -/
def decimalDigits : Reader (List Char) :=
  (do let _ ← lookAhead (satisfying fun c => '1' ≤ c && c ≤ '9'); digits 10) <|>
    (do return [← exactly '0'])

/-- Whether an integer has 64 bits. -/
def fits (n : Int) : Bool :=
  -0x8000000000000000 ≤ n && n < 0x8000000000000000

/-- Read an integer in a base that a letter names. -/
def basedInteger (letter : Char) (base : Nat) : Reader Value := do
  word ['0', letter]
  let n := (numberOf base (← digits base) : Int)
  if fits n then return .integer n else failure

/-- Read a decimal integer. -/
def decimalInteger : Reader Value := do
  let negative ← sign
  let n := (numberOf 10 (← decimalDigits) : Int)
  let n := if negative then -n else n
  if fits n then return .integer n else failure

/-- Read an integer. -/
def integer : Reader Value :=
  basedInteger 'x' 16 <|> basedInteger 'o' 8 <|> basedInteger 'b' 2 <|> decimalInteger

/-- Whether `digits` times a power of ten rounds to more than the greatest double. The bound lies
halfway between the greatest double and the next power of two. -/
def overflows (digits : Nat) (exponent : Int) : Bool :=
  let bound := Nat.pow 2 1024 - Nat.pow 2 970
  let size := ((Nat.toDigits 10 digits).length : Int) + exponent
  if digits = 0 then false
  else if 320 < size then true
  else if size < 300 then false
  else if 0 ≤ exponent then bound ≤ digits * Nat.pow 10 exponent.toNat
  else bound * Nat.pow 10 (-exponent).toNat ≤ digits

/-- Read an exponent. -/
def exponent : Reader Int := do
  let _ ← satisfying fun c => c == 'e' || c == 'E'
  let negative ← sign
  let n := (numberOf 10 (← digits 10) : Int)
  return if negative then -n else n

/-- Read a float in digits: an integer with a fraction, an exponent, or both. -/
def digitFloat : Reader Unit := do
  let negative ← sign
  let whole ← decimalDigits
  let fraction ← optional (exactly '.' *> digits 10)
  let power ← optional exponent
  if fraction.isNone && power.isNone then failure
  let places := fraction.getD []
  if !negative && overflows (numberOf 10 (whole ++ places)) (power.getD 0 - places.length) then
    failure

/-- Read an infinity or a NaN by name. -/
def namedFloat : Reader Unit := do
  let _ ← sign
  word "inf".toList <|> word "nan".toList

/-- Give what a reader takes as it was written. -/
def written (r : Reader Unit) : Reader String := fun text =>
  (r.run text).map fun found =>
    (String.ofList (text.take (text.length - found.2.length)), found.2)

/-- Read a float. -/
def float : Reader Value := do
  return .float (← written (digitFloat <|> namedFloat))

/-- Read exactly so many decimal digits and give their value. -/
def fixedDigits (count : Nat) : Reader Nat := fun text =>
  let digits := text.take count
  if digits.length = count ∧ digits.all Char.isDigit then
    some (numberOf 10 digits, text.drop count)
  else none

/-- Read a number of two digits within bounds. -/
def twoDigits (low high : Nat) : Reader Nat := do
  let n ← fixedDigits 2
  if low ≤ n ∧ n ≤ high then return n else failure

/-- The number of days in a month. -/
def daysIn (year month : Nat) : Nat :=
  if month = 2 then
    if year % 4 = 0 ∧ (year % 100 ≠ 0 ∨ year % 400 = 0) then 29 else 28
  else if month = 4 ∨ month = 6 ∨ month = 9 ∨ month = 11 then 30
  else 31

/-- Read a day that exists. -/
def date : Reader Unit := do
  let year ← fixedDigits 4
  let _ ← exactly '-'
  let month ← twoDigits 1 12
  let _ ← exactly '-'
  let _ ← twoDigits 1 (daysIn year month)

/-- Read a time of day. The second sixty is a leap second. -/
def time : Reader Unit := do
  let _ ← twoDigits 0 23
  let _ ← exactly ':'
  let _ ← twoDigits 0 59
  let _ ← exactly ':'
  let _ ← twoDigits 0 60
  let _ ← optional (exactly '.' *> span1 Char.isDigit)

/-- Read a distance from universal time. -/
def zone : Reader Unit :=
  (do let _ ← satisfying fun c => c == 'Z' || c == 'z') <|> do
    let _ ← satisfying fun c => c == '+' || c == '-'
    let _ ← twoDigits 0 23
    let _ ← exactly ':'
    let _ ← twoDigits 0 59

/-- Read the time behind a date. -/
def timeOfDate : Reader Unit := do
  let _ ← satisfying fun c => c == 'T' || c == 't' || c == ' '
  time
  let _ ← optional zone

/-- Read a date, a time, or both. -/
def dateTime : Reader Value := do
  return .dateTime (← written ((do date; let _ ← optional timeOfDate) <|> time))

end DesignAtlas.Toml
