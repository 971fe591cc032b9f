/-!
# Numerals

The integers that digits stand for, in 64 bits.

* `numberIn?` reads digits in a base, and `constant?` finds the base in front of them.
* `numberOfValue?` is the number that the value of a variable stands for, and `leadingNumber` the
  number at the start of a text.
-/

namespace DesignAtlas.Shell

/-- The greatest number of 64 bits with a sign. -/
def maxNumber : Int := 0x7fffffffffffffff

/-- The least number of 64 bits with a sign. -/
def minNumber : Int := -0x8000000000000000

/-- The number that a 64-bit word holds in place of an integer. -/
def wrapped (n : Int) : Int :=
  n.bmod 0x10000000000000000

/-- The value of a digit in a number. -/
def digitValue? (c : Char) : Option Nat :=
  if c.isDigit then some (c.toNat - '0'.toNat)
  else if 'a' ≤ c ∧ c ≤ 'f' then some (c.toNat - 'a'.toNat + 10)
  else if 'A' ≤ c ∧ c ≤ 'F' then some (c.toNat - 'A'.toNat + 10)
  else none

/-- The number that digits make in a base. -/
def numberIn? (base : Nat) (digits : List Char) : Option Int :=
  digits.foldlM (fun value c =>
    match digitValue? c with
    | some d => if d < base then some (value * base + d) else none
    | none => none) 0

/-- The number that a constant stands for: octal behind `0`, hexadecimal behind `0x`. -/
def constant? (text : List Char) : Option Int :=
  match text with
  | [] => none
  | ['0'] => some 0
  | '0' :: 'x' :: digits => if digits.isEmpty then none else numberIn? 16 digits
  | '0' :: 'X' :: digits => if digits.isEmpty then none else numberIn? 16 digits
  | '0' :: digits => numberIn? 8 digits
  | digits => numberIn? 10 digits

/-- Whether a character may stand around a number. -/
def isAroundNumber (c : Char) : Bool :=
  [' ', '\t', '\n', '\x0b', '\x0c', '\r'].contains c

/-- A text without what may stand around a number. -/
def withoutSurroundings (text : List Char) : List Char :=
  ((text.dropWhile isAroundNumber).reverse.dropWhile isAroundNumber).reverse

/-- The number that digits with a sign stand for, if the digits stand for one. -/
def signed? (unsigned? : List Char → Option Int) (text : List Char) : Option Int :=
  match text with
  | '-' :: digits => if digits.isEmpty then none else (unsigned? digits).map (-·)
  | '+' :: digits => if digits.isEmpty then none else unsigned? digits
  | digits => if digits.isEmpty then none else unsigned? digits

/-- The decimal number that a text stands for. -/
def decimal? (text : String) : Option Int :=
  signed? (numberIn? 10) (withoutSurroundings text.toList)

/-- The number that the value of a variable stands for. An empty value is 0, and a number of more
than 64 bits is none. -/
def numberOfValue? (text : String) : Option Int :=
  match withoutSurroundings text.toList with
  | [] => some 0
  | text =>
    (signed? constant? text).filter fun n => decide (minNumber ≤ n) && decide (n ≤ maxNumber)

/-- The digits at the start of a text with their base, and the text behind them. -/
def leadingDigits (text : List Char) : Nat × List Char × List Char :=
  let split (base : Nat) (text : List Char) : Nat × List Char × List Char :=
    let isDigit (c : Char) : Bool := (digitValue? c).any (· < base)
    (base, text.takeWhile isDigit, text.dropWhile isDigit)
  match text with
  | '0' :: x :: c :: rest =>
    if (x == 'x' || x == 'X') && (digitValue? c).isSome then split 16 (c :: rest)
    else split 8 text
  | '0' :: _ => split 8 text
  | _ => split 10 text

/-- The number at the start of a text and the text behind it. It is 0 if there is none, and a number
of more than 64 bits stands for the nearest one. -/
def leadingNumber (text : List Char) : Int × List Char :=
  let (isNegative, unsigned) :=
    match text.dropWhile isAroundNumber with
    | '-' :: rest => (true, rest)
    | '+' :: rest => (false, rest)
    | rest => (false, rest)
  let (base, digits, behind) := leadingDigits unsigned
  if digits.isEmpty then (0, text)
  else
    let n := (numberIn? base digits).getD 0
    (max minNumber (min maxNumber (if isNegative then -n else n)), behind)

end DesignAtlas.Shell
