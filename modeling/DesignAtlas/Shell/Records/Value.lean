import DesignAtlas.Shell.Format
import DesignAtlas.Shell.Records.Script

/-!
# Values in scripts for records

A value is a text or a number, and each of them has the other form as well. What comes from outside
is a text that counts as a number if it looks like one.

* `Value.toNumber` and `Value.toText` are the two forms.
* `Value.holds` and `Value.compare` are what conditions are about.
* `filledFormat` fills in a format with values.
-/

namespace DesignAtlas.Shell.Records

open Number

/-- A value. -/
inductive Value where
  /-- Nothing has been put there. -/
  | unset
  /-- A number. -/
  | number (x : Float)
  /-- A text. -/
  | text (t : ByteText)
  /-- A text from outside that looks like a number. -/
  | numeral (t : ByteText) (x : Float)

/-- The number at the start of a text. Without one it is 0. -/
def numberAtStart (t : ByteText) : Float :=
  match ReadNumber.atStart? true t.toList with
  | some (n, _) => (n.toBinary .double).toFloat
  | none => 0

/-- The integer that a number is, if it is one. -/
def wholeOf? (x : Float) : Option Int :=
  match Binary.ofFloat x with
  | .finite isNegative m e =>
    let n? : Option Nat :=
      if 0 ≤ e then some (m * Nat.pow 2 e.toNat)
      else if m % Nat.pow 2 (-e).toNat = 0 then some (m / Nat.pow 2 (-e).toNat)
      else none
    n?.map fun n => if isNegative then -(n : Int) else n
  | _ => none

/-- The integer next to a number on the way to 0. -/
def truncated (x : Float) : Int :=
  match Binary.ofFloat x with
  | .finite isNegative m e =>
    let n : Nat := if 0 ≤ e then m * Nat.pow 2 e.toNat else m / Nat.pow 2 (-e).toNat
    if isNegative then -(n : Int) else n
  | .infinite isNegative => if isNegative then -0x8000000000000000 else 0x8000000000000000
  | .undefined _ => -0x8000000000000000

/-- An integer that fits into a machine word with a sign. -/
def clamped (n : Int) : Int :=
  max (-0x8000000000000000) (min n 0x7fffffffffffffff)

/-! ### Formats -/

/-- What becomes of a format. -/
inductive FormatFault where
  /-- There are too few values. -/
  | tooFew
  /-- A directive is not known. -/
  | unknown (number : Nat)

/-- Take the digits at the start of a text, or a value in place of a star. -/
def formatSize {α : Type} (toInteger : α → Int) (text : List Char) (left : List α) :
    Except FormatFault (Option Int × List Char × List α) :=
  match text with
  | '*' :: rest =>
    match left with
    | v :: left => .ok (some (toInteger v), rest, left)
    | [] => .error .tooFew
  | text =>
    let digits := text.takeWhile Char.isDigit
    let n : Nat := digits.foldl (fun n d => 10 * n + (d.toNat - 48)) 0
    .ok (if digits.isEmpty then none else some (n : Int), text.drop digits.length, left)

/-- A number as a directive writes it. -/
def writtenNumber (d : Directive) (letter : Char) (x : Float) : ByteText :=
  match letter with
  | 'd' => d.integerText (clamped (truncated x))
  | 'i' => d.integerText (clamped (truncated x))
  | 'u' => d.wordText 10 (min (truncated x) 0xffffffffffffffff)
  | 'o' => d.wordText 8 (min (truncated x) 0xffffffffffffffff)
  | 'x' => d.wordText 16 (min (truncated x) 0xffffffffffffffff)
  | 'X' => (d.wordText 16 (min (truncated x) 0xffffffffffffffff)).map Char.toUpper
  | letter =>
    match Binary.ofFloat x with
    | .undefined _ => d.binaryText letter (.undefined true)
    | b => d.binaryText letter b

/-- The text of a number that is no integer, or is too large for one. -/
def formattedNumber (format : ByteText) (x : Float) : ByteText :=
  match format.toList with
  | '%' :: rest =>
    let flags := rest.takeWhile ['-', '+', ' ', '0', '#'].contains
    let rest := rest.drop flags.length
    let digits := rest.takeWhile Char.isDigit
    let behind := rest.drop digits.length
    let places := match behind with
      | '.' :: more => more.takeWhile Char.isDigit
      | _ => []
    let hasPoint := behind.head? = some '.'
    let letters := if hasPoint then behind.drop (places.length + 1) else behind
    let valueOf (digits : List Char) : Nat :=
      digits.foldl (fun n d => 10 * n + (d.toNat - 48)) 0
    let d : Directive :=
      ⟨flags, valueOf digits, if hasPoint then some (valueOf places) else none⟩
    match letters with
    | letter :: rest => writtenNumber d letter x ++ String.ofList rest
    | [] => format
  | _ => format

/-- A number as a text. Integers are written in full. -/
def numberText (format : ByteText) (x : Float) : ByteText :=
  match wholeOf? x with
  | some n =>
    if -0x8000000000000000 ≤ n ∧ n ≤ 0x10000000000000000 then toString (min n 0xffffffffffffffff)
    else formattedNumber format x
  | none => formattedNumber format x

namespace Value

/-- A value that comes from outside. It is a numeral if it looks like a number between blanks. -/
def ofInput (t : ByteText) : Value :=
  let isGap (c : Char) : Bool := c == ' ' || ('\t' ≤ c && c ≤ '\r')
  match ReadNumber.atStart? true (t.toList.dropWhile isGap) with
  | some (n, rest) =>
    if rest.all isGap then .numeral t (n.toBinary .double).toFloat else .text t
  | none => .text t

/-- The number. -/
def toNumber : Value → Float
  | unset => 0
  | number x => x
  | text t => numberAtStart t
  | numeral _ x => x

/-- The text. A format says how numbers are written that are no integers. -/
def toText (format : ByteText) : Value → ByteText
  | unset => ""
  | number x => numberText format x
  | text t => t
  | numeral t _ => t

/-- Whether a value holds as a condition. -/
def holds : Value → Bool
  | unset => false
  | number x => x != 0
  | text t => t != ""
  | numeral _ x => x != 0

/-- The value of a condition. -/
def ofBool (b : Bool) : Value :=
  .number (if b then 1 else 0)

/-- A value from an integer. -/
def ofNat (n : Nat) : Value :=
  .number (Float.ofNat n)

/-- Whether a value counts as a number when it is compared. -/
def isNumeric : Value → Bool
  | text _ => false
  | _ => true

/-- Whether a relation holds between two values: between numbers, or between texts. -/
def compare (format : ByteText) (r : Relation) (a b : Value) : Bool :=
  if a.isNumeric && b.isNumeric then
    let x := a.toNumber
    let y := b.toNumber
    match r with
    | .less => x < y
    | .atMost => x <= y
    | .equal => x == y
    | .different => x != y
    | .greater => x > y
    | .atLeast => x >= y
  else
    let s := a.toText format
    let t := b.toText format
    match r with
    | .less => decide (s < t)
    | .atMost => decide (s ≤ t)
    | .equal => s == t
    | .different => s != t
    | .greater => decide (t < s)
    | .atLeast => decide (t ≤ s)

end Value

/-- The remainder of a quotient that is cut off, with the sign of the dividend. -/
def remainderOf (x y : Float) : Float :=
  match Binary.ofFloat x, Binary.ofFloat y with
  | .finite isNegative m e, .finite _ n f =>
    if n = 0 then 0 / 0
    else
      let least := min e f
      let r := (m * Nat.pow 2 (e - least).toNat) % (n * Nat.pow 2 (f - least).toNat)
      let (a, b) := scaled 2 r least
      (Binary.nearest .double isNegative a b).toFloat
  | .finite _ _ _, .infinite _ => x
  | _, _ => 0 / 0

namespace Operator

/-- Combine two numbers. -/
def apply : Operator → Float → Float → Float
  | add, x, y => x + y
  | subtract, x, y => x - y
  | multiply, x, y => x * y
  | divide, x, y => x / y
  | remainder, x, y => remainderOf x y
  | power, x, y => Float.pow x y

end Operator

/-- Fill in a format with values. -/
def filledFormat (format : ByteText) : (fuel : Nat) → List Char → List Value → (number : Nat) →
    ByteText → Except (FormatFault × ByteText) ByteText
  | 0, _, _, _, done => .ok done
  | fuel + 1, text, left, number, done =>
    match text with
    | [] => .ok done
    | '%' :: '%' :: rest => filledFormat format fuel rest left number (done.push '%')
    | '%' :: rest => do
      let flags := rest.takeWhile ['-', '+', ' ', '0', '#'].contains
      let toInteger (v : Value) : Int := truncated v.toNumber
      let marked {α : Type} (e : Except FormatFault α) : Except (FormatFault × ByteText) α :=
        e.mapError fun fault => (fault, done)
      let (width?, rest, left) ← marked (formatSize toInteger (rest.drop flags.length) left)
      let width := width?.getD 0
      let (precision?, rest, left) ← match rest with
        | '.' :: rest => do
          let (p, rest, left) ← marked (formatSize toInteger rest left)
          pure (some (p.getD 0), rest, left)
        | rest => pure (none, rest, left)
      let rest := rest.dropWhile ['h', 'l', 'L', 'q', 'j', 'z', 't'].contains
      let d : Directive :=
        ⟨if width < 0 then '-' :: flags else flags, width.natAbs,
          (precision?.filter (0 ≤ ·)).map Int.toNat⟩
      match rest with
      | [] => throw (.unknown (number + 1), done)
      | letter :: rest =>
        if !"cdiouxXeEfFgGs".toList.contains letter then throw (.unknown (number + 1), done)
        match left with
        | [] => throw (.tooFew, done)
        | v :: left =>
          let shown := match letter with
            | 's' =>
              let t := v.toText format
              d.padded ((d.precision.map fun n => String.ofList (t.toList.take n)).getD t)
            | 'c' =>
              let c := match v with
                | .number x => Char.ofNat ((truncated x) % 256).toNat
                | .numeral _ x => Char.ofNat ((truncated x) % 256).toNat
                | v => (v.toText format).toList.headD '\x00'
              d.padded c.toString
            | letter => writtenNumber d letter v.toNumber
          filledFormat format fuel rest left (number + 1) (done ++ shown)
    | c :: rest => filledFormat format fuel rest left number (done.push c)

end DesignAtlas.Shell.Records
