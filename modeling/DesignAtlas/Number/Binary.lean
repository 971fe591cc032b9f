/-!
# Binary numbers

Numbers of the form m · 2 ^ e, as machines compute with them, and their decimal digits. The digits
are those of the exact value, rounded once; a half goes to the even digit.

* `Binary.nearest` is the number of so many bits that is nearest to a fraction.
* `Binary.fixed`, `Binary.scientific` and `Binary.general` write a number in decimal digits.
-/

namespace DesignAtlas.Number

/-- A binary number. -/
inductive Binary where
  /-- The number m · 2 ^ e with a sign. -/
  | finite (isNegative : Bool) (m : Nat) (e : Int)
  /-- A number beyond all others. -/
  | infinite (isNegative : Bool)
  /-- No number. -/
  | undefined (isNegative : Bool)
  deriving DecidableEq, Repr

/-- The sizes of the parts of binary numbers. -/
structure Width where
  /-- The number of bits of m. -/
  bits : Nat
  /-- The least e. -/
  least : Int
  /-- The greatest place of a bit. -/
  greatest : Int
  deriving DecidableEq, Repr

namespace Width

/-- Numbers of 64 bits. -/
def double : Width := ⟨53, -1074, 1023⟩

/-- Numbers of 80 bits. -/
def extended : Width := ⟨64, -16445, 16383⟩

end Width

/-- The integer that is nearest to a quotient. A half goes to the even one. -/
def roundedQuotient (n d : Nat) : Nat :=
  let q := n / d
  let r := n % d
  if d < 2 * r ∨ (2 * r = d ∧ q % 2 = 1) then q + 1 else q

/-- A natural number times a power of a base, as a numerator and a denominator. -/
def scaled (base n : Nat) (e : Int) : Nat × Nat :=
  if 0 ≤ e then (n * Nat.pow base e.toNat, 1) else (n, Nat.pow base (-e).toNat)

namespace Binary

/-- The number of a width that is nearest to a fraction. -/
def nearest (w : Width) (isNegative : Bool) (n d : Nat) : Binary :=
  if n = 0 then .finite isNegative 0 0
  else
    let guess : Int := (n.log2 : Int) - d.log2 - w.bits + 1
    let isTooLow (e : Int) : Bool :=
      let (a, b) := scaled 2 n (-e)
      decide (Nat.pow 2 w.bits * (b * d) ≤ a)
    let isTooHigh (e : Int) : Bool :=
      let (a, b) := scaled 2 n (-e)
      decide (a < Nat.pow 2 (w.bits - 1) * (b * d))
    let e := if isTooLow guess then guess + 1 else if isTooHigh guess then guess - 1 else guess
    let e := max e w.least
    let (a, b) := scaled 2 n (-e)
    let m := roundedQuotient a (b * d)
    if m ≠ 0 ∧ w.greatest < (m.log2 : Int) + e then .infinite isNegative
    else .finite isNegative m e

/-- The number that a machine word of 64 bits holds. -/
def ofFloat (x : Float) : Binary :=
  let bits := x.toBits.toNat
  let isNegative := decide (Nat.pow 2 63 ≤ bits)
  let power : Nat := bits / Nat.pow 2 52 % Nat.pow 2 11
  let part := bits % Nat.pow 2 52
  if power = 2047 then if part = 0 then .infinite isNegative else .undefined isNegative
  else if power = 0 then .finite isNegative part (-1074)
  else .finite isNegative (Nat.pow 2 52 + part) ((power : Int) - 1075)

/-- The machine word that holds a number of 64 bits. -/
def toFloat : Binary → Float
  | infinite isNegative => if isNegative then -1.0 / 0.0 else 1.0 / 0.0
  | undefined _ => 0.0 / 0.0
  | finite isNegative m e =>
    let sign : Nat := if isNegative then Nat.pow 2 63 else 0
    let bits : Nat :=
      if m = 0 then 0
      else
        -- The number once more, with 53 bits or with the least exponent.
        match nearest .double false (scaled 2 m e).1 (scaled 2 m e).2 with
        | finite _ m e =>
          if m < Nat.pow 2 52 then m
          else (e + 1075).toNat * Nat.pow 2 52 + (m - Nat.pow 2 52)
        | _ => 2047 * Nat.pow 2 52
    Float.ofBits (UInt64.ofNat (sign + bits))

/-- Whether a number has the sign of negative ones. -/
def isNegative : Binary → Bool
  | finite isNegative _ _ => isNegative
  | infinite isNegative => isNegative
  | undefined isNegative => isNegative

/-- The integer that is nearest to m · 2 ^ e · 10 ^ k. -/
def decimalInteger (m : Nat) (e k : Int) : Nat :=
  let (a, b) := scaled 2 m e
  let (c, d) := scaled 10 a k
  roundedQuotient c (b * d)

/-- The digits of a number with so many places behind the point. -/
def fixedDigits (m : Nat) (e : Int) (places : Nat) (pointAnyway : Bool) : String :=
  let digits := Nat.toDigits 10 (decimalInteger m e places)
  let digits := List.replicate (places + 1 - digits.length) '0' ++ digits
  let whole := digits.take (digits.length - places)
  let behind := digits.drop (digits.length - places)
  String.ofList (whole ++ (if behind.isEmpty && !pointAnyway then [] else ['.']) ++ behind)

/-- The digits of a number with one place before the point and so many behind it, as an integer, and
the power of ten that belongs to them. -/
def scientificParts (m : Nat) (e : Int) (places : Nat) : Nat × Int :=
  if m = 0 then (0, 0)
  else
    -- The power of ten lies near the power of two.
    let guess : Int := ((m.log2 : Int) + e) * 30103 / 100000
    let digitsAt (power : Int) : Nat := decimalInteger m e (places - power)
    let isLarge (power : Int) : Bool := decide (Nat.pow 10 (places + 1) ≤ digitsAt power)
    let isSmall (power : Int) : Bool := decide (digitsAt power < Nat.pow 10 places)
    let power := if isLarge guess then guess + 1 else guess
    let power := if isLarge power then power + 1 else power
    let power := if isSmall power then power - 1 else power
    let power := if isLarge power then power + 1 else power
    (digitsAt power, power)

/-- An exponent of at least two digits with its sign. -/
def exponentText (mark : Char) (power : Int) : String :=
  let digits := Nat.repr power.natAbs
  mark.toString ++ (if power < 0 then "-" else "+") ++ (if digits.length < 2 then "0" else "") ++
    digits

/-- A number with a power of ten behind it. -/
def scientificDigits (m : Nat) (e : Int) (places : Nat) (pointAnyway : Bool) : String :=
  let (n, power) := scientificParts m e places
  let digits := Nat.toDigits 10 n
  let digits := digits ++ List.replicate (places + 1 - digits.length) '0'
  let behind := digits.drop 1
  String.ofList (digits.take 1 ++ (if behind.isEmpty && !pointAnyway then [] else ['.']) ++ behind)
    ++ exponentText 'e' power

/-- A text of digits without zeros at the end of the places behind the point. -/
def withoutZeros (text : String) : String :=
  let chars := text.toList
  let mantissa := chars.takeWhile (· != 'e')
  let behind := chars.drop mantissa.length
  if mantissa.contains '.' then
    let short := mantissa.reverse.dropWhile (· == '0')
    let short := if short.head? = some '.' then short.drop 1 else short
    String.ofList (short.reverse ++ behind)
  else text

/-- A number with so many digits, written in the shorter way. -/
def generalDigits (m : Nat) (e : Int) (digits : Nat) (keepZeros : Bool) : String :=
  let digits := max digits 1
  let (_, power) := scientificParts m e (digits - 1)
  let text :=
    if -4 ≤ power ∧ power < digits then
      fixedDigits m e ((digits : Int) - 1 - power).toNat keepZeros
    else scientificDigits m e (digits - 1) keepZeros
  if keepZeros then text else withoutZeros text

/-- A number in hexadecimal digits with a power of two. -/
def hexadecimalDigits (m : Nat) (e : Int) (places : Option Nat) : String :=
  if m = 0 then "0x0" ++ places.elim "" (fun p => if p = 0 then "" else
    "." ++ String.ofList (List.replicate p '0')) ++ "p+0"
  else
    let bits := m.log2
    let power := (bits : Int) + e
    -- The bits behind the first one, filled up to whole digits.
    let part := (m - Nat.pow 2 bits) * Nat.pow 2 ((4 - bits % 4) % 4)
    let count := (bits + 3) / 4
    let hex := Nat.toDigits 16 part
    let digits := List.replicate (count - hex.length) '0' ++ (if count = 0 then [] else hex)
    let (first, digits) :=
      match places with
      | none => (1, (digits.reverse.dropWhile (· == '0')).reverse)
      | some p =>
        if count ≤ p then (1, digits ++ List.replicate (p - count) '0')
        else
          let rounded := roundedQuotient (part + Nat.pow 16 count) (Nat.pow 16 (count - p))
          let all := Nat.toDigits 16 rounded
          (((all.head?.getD '1').toNat - 48), all.drop 1)
    "0x" ++ Nat.repr first ++ (if digits.isEmpty then "" else "." ++ String.ofList digits) ++ "p" ++
      (if power < 0 then "-" else "+") ++ Nat.repr power.natAbs

end Binary

/-! ### Reading -/

/-- A number that is read from a text: a fraction with a sign, or one of the words for what is no
fraction. -/
inductive ReadNumber where
  /-- A fraction. -/
  | fraction (isNegative : Bool) (n d : Nat)
  /-- A number beyond all others. -/
  | infinite (isNegative : Bool)
  /-- No number. -/
  | undefined (isNegative : Bool)
  deriving DecidableEq, Repr

namespace ReadNumber

/-- The value of a digit of a base up to 16. -/
def digit? (base : Nat) (c : Char) : Option Nat :=
  let value? :=
    if c.isDigit then some (c.toNat - 48)
    else if 'a' ≤ c ∧ c ≤ 'f' then some (c.toNat - 87)
    else if 'A' ≤ c ∧ c ≤ 'F' then some (c.toNat - 55)
    else none
  value?.filter (· < base)

/-- The number of digits at the start of a text and their value. -/
def digits (base : Nat) (text : List Char) : Nat × Nat :=
  let taken := text.takeWhile fun c => (digit? base c).isSome
  (taken.length, taken.foldl (fun n c => n * base + (digit? base c).getD 0) 0)

/-- Read an exponent behind its mark. -/
def exponent? (text : List Char) : Option (Int × List Char) :=
  let (sign, rest) : Int × List Char :=
    match text with
    | '-' :: rest => (-1, rest)
    | '+' :: rest => (1, rest)
    | rest => (1, rest)
  let (count, n) := digits 10 rest
  -- An exponent beyond all bounds is cut.
  if count = 0 then none else some (sign * (min n 20000 : Nat), rest.drop count)

/-- Read digits with a point among them. -/
def mantissa? (base : Nat) (text : List Char) : Option (Nat × Nat × List Char) :=
  let (count, n) := digits base text
  match text.drop count with
  | '.' :: rest =>
    let (places, m) := digits base rest
    if count + places = 0 then none
    else some (n * Nat.pow base places + m, places, rest.drop places)
  | rest => if count = 0 then none else some (n, 0, rest)

/-- Whether a text starts with a word in letters of any case. -/
def startsWith (word : String) (text : List Char) : Bool :=
  (text.take word.length).map Char.toLower == word.toList

/-- Read a number at the start of a text, if there is one. Gives the text behind it. -/
def atStart? (allowHexadecimal : Bool) (text : List Char) : Option (ReadNumber × List Char) :=
  let isGap (c : Char) : Bool := c == ' ' || decide ('\t' ≤ c ∧ c ≤ '\r')
  let (isNegative, text) :=
    match text.dropWhile isGap with
    | '-' :: rest => (true, rest)
    | '+' :: rest => (false, rest)
    | rest => (false, rest)
  let hexadecimal? : Option (ReadNumber × List Char) :=
    match text with
    | '0' :: x :: rest =>
      if allowHexadecimal ∧ (x = 'x' ∨ x = 'X') then
        (mantissa? 16 rest).map fun (n, places, behind) =>
          let (power, behind) :=
            match behind with
            | 'p' :: e => (exponent? e).getD (0, behind)
            | 'P' :: e => (exponent? e).getD (0, behind)
            | behind => (0, behind)
          let (a, b) := scaled 2 n (power - 4 * places)
          (fraction isNegative a b, behind)
      else none
    | _ => none
  match hexadecimal? with
  | some found => some found
  | none =>
    match mantissa? 10 text with
    | some (n, places, behind) =>
      let (power, behind) :=
        match behind with
        | 'e' :: e => (exponent? e).getD (0, behind)
        | 'E' :: e => (exponent? e).getD (0, behind)
        | behind => (0, behind)
      let (a, b) := scaled 10 n (power - places)
      some (fraction isNegative a b, behind)
    | none =>
      if startsWith "infinity" text then some (infinite isNegative, text.drop 8)
      else if startsWith "inf" text then some (infinite isNegative, text.drop 3)
      else if startsWith "nan" text then some (undefined isNegative, text.drop 3)
      else none

/-- The binary number of a width that is nearest. -/
def toBinary (w : Width) : ReadNumber → Binary
  | fraction isNegative n d => .nearest w isNegative n d
  | infinite isNegative => .infinite isNegative
  | undefined isNegative => .undefined isNegative

end ReadNumber

end DesignAtlas.Number
