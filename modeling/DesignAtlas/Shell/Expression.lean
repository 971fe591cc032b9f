import DesignAtlas.Shell.ByteText
import DesignAtlas.Shell.Numeral

/-!
# Expressions

The integer expressions of a shell, in 64 bits. A condition is 1 or 0.

* `UnaryOperator.apply` and `BinaryOperator.apply` are what operators make of numbers.
-/

namespace DesignAtlas.Shell

/-- An operator before an operand. -/
inductive UnaryOperator where
  /-- The opposite number. -/
  | opposite
  /-- Whether the operand is 0. -/
  | isZero
  /-- All bits changed. -/
  | complement
  deriving DecidableEq, Repr

/-- An operator between two operands. -/
inductive BinaryOperator where
  /-- Multiplication. -/
  | times
  /-- Multiplication with itself, so many times. -/
  | power
  /-- Division toward zero. -/
  | quotient
  /-- What such a division leaves. -/
  | remainder
  /-- Addition. -/
  | plus
  /-- Subtraction. -/
  | minus
  /-- Bits moved up. -/
  | shiftUp
  /-- Bits moved down, below the sign. -/
  | shiftDown
  /-- Less. -/
  | less
  /-- Less or equal. -/
  | atMost
  /-- Greater. -/
  | greater
  /-- Greater or equal. -/
  | atLeast
  /-- Equal. -/
  | equal
  /-- Not equal. -/
  | unequal
  /-- The bits of both. -/
  | bitsOfBoth
  /-- The bits of one only. -/
  | bitsOfOne
  /-- The bits of either. -/
  | bitsOfEither
  deriving DecidableEq, Repr

/-- A variable in an expression, or a place in an array. -/
structure Target where
  /-- The name of the variable. -/
  name : String
  /-- The text of the place in an array. -/
  key : Option ByteText
  deriving DecidableEq, Repr

/-- An integer expression. -/
inductive Expression where
  /-- A number. -/
  | number (n : Int)
  /-- A variable. -/
  | value (t : Target)
  /-- An operator before an operand. -/
  | unary (o : UnaryOperator) (operand : Expression)
  /-- An operator between two operands. The text behind the operator is kept for complaints. -/
  | binary (o : BinaryOperator) (first second : Expression) (behind : ByteText)
  /-- Whether neither operand is 0. -/
  | both (first second : Expression)
  /-- Whether one of the operands is not 0. -/
  | either (first second : Expression)
  /-- One of two operands, as a test says. -/
  | choice (test yes no : Expression)
  /-- The assignment of a value to a variable, by way of an operator if there is one. -/
  | assign (t : Target) (o : Option BinaryOperator) (value : Expression)
  /-- A variable that is changed by a number, as it is before or behind that. -/
  | change (t : Target) (step : Int) (isBefore : Bool)
  /-- The second of two expressions. -/
  | second (first second : Expression)
  deriving Repr

/-- The number for a condition. -/
def ofCondition (holds : Bool) : Int :=
  if holds then 1 else 0

/-- What an operator makes of its operand. -/
def UnaryOperator.apply : UnaryOperator → Int → Int
  | opposite, n => wrapped (-n)
  | isZero, n => ofCondition (n == 0)
  | complement, n => wrapped (-n - 1)

/-- Combine the bits of two numbers. -/
def bitwise (combine : BitVec 64 → BitVec 64 → BitVec 64) (a b : Int) : Int :=
  (combine (BitVec.ofInt 64 a) (BitVec.ofInt 64 b)).toInt

/-- A number multiplied with itself so many times, in 64 bits. -/
def powerOf (a : Int) : Nat → Int
  | 0 => 1
  | n + 1 => wrapped (powerOf a n * a)

/-- What an operator makes of two operands. Nothing is divided by 0, and bits are moved by a number
below 64. -/
def BinaryOperator.apply : BinaryOperator → Int → Int → Option Int
  | times, a, b => some (wrapped (a * b))
  | power, a, b => if b < 0 then none else some (powerOf a b.toNat)
  | quotient, a, b => if b = 0 then none else some (wrapped (a.tdiv b))
  | remainder, a, b => if b = 0 then none else some (wrapped (a.tmod b))
  | plus, a, b => some (wrapped (a + b))
  | minus, a, b => some (wrapped (a - b))
  | shiftUp, a, b => some (wrapped (a * Int.ofNat (Nat.pow 2 (b % 64).toNat)))
  | shiftDown, a, b => some (a.fdiv (Int.ofNat (Nat.pow 2 (b % 64).toNat)))
  | less, a, b => some (ofCondition (decide (a < b)))
  | atMost, a, b => some (ofCondition (decide (a ≤ b)))
  | greater, a, b => some (ofCondition (decide (b < a)))
  | atLeast, a, b => some (ofCondition (decide (b ≤ a)))
  | equal, a, b => some (ofCondition (a == b))
  | unequal, a, b => some (ofCondition (a != b))
  | bitsOfBoth, a, b => some (bitwise (· &&& ·) a b)
  | bitsOfOne, a, b => some (bitwise (· ^^^ ·) a b)
  | bitsOfEither, a, b => some (bitwise (· ||| ·) a b)

end DesignAtlas.Shell
