import DesignAtlas.Number.Binary
import DesignAtlas.Shell.Escape
import DesignAtlas.Shell.Numeral
import DesignAtlas.Shell.Quoting

/-!
# Formats

Formats whose directives are filled in with arguments, again and again until all arguments are used.

* `fillFormat` fills in a format. It gives the text, what there is to complain about, and the
  status.
-/

namespace DesignAtlas.Shell

open Number

/-- Who fills in a format. -/
inductive FormatStyle where
  /-- The plain dialect. -/
  | plain
  /-- The rich dialect. -/
  | rich
  /-- A program that is no shell. -/
  | program
  deriving DecidableEq, Repr

/-- A directive of a format. -/
structure Directive where
  /-- The flags. -/
  flags : List Char
  /-- The least number of bytes. -/
  width : Nat
  /-- The greatest number of bytes of a text, or the least number of digits. -/
  precision : Option Nat
  deriving DecidableEq, Repr

namespace Directive

/-- Fill a text up to the width of a directive. -/
def padded (d : Directive) (text : ByteText) : ByteText :=
  let gap := String.ofList (List.replicate (d.width - text.length) ' ')
  if d.flags.contains '-' then text ++ gap else gap ++ text

/-- Digits behind a sign, up to the width of a directive. -/
def signedDigits (d : Directive) (mayFill : Bool) (sign digits : String) : ByteText :=
  let missing := d.width - (sign.length + digits.length)
  if d.flags.contains '0' && !d.flags.contains '-' && mayFill then
    sign ++ String.ofList (List.replicate missing '0') ++ digits
  else d.padded (sign ++ digits)

/-- The sign of a number. -/
def sign (d : Directive) (isNegative : Bool) : String :=
  if isNegative then "-"
  else if d.flags.contains '+' then "+"
  else if d.flags.contains ' ' then " "
  else ""

/-- The digits of an integer in a base, at least as many as are asked for. -/
def digitsIn (d : Directive) (base n : Nat) : String :=
  if n = 0 ∧ d.precision = some 0 then ""
  else
    let digits := Nat.toDigits base n
    String.ofList (List.replicate (d.precision.getD 1 - digits.length) '0' ++ digits)

/-- An integer with its sign. -/
def integerText (d : Directive) (n : Int) : ByteText :=
  d.signedDigits d.precision.isNone (d.sign (decide (n < 0))) (d.digitsIn 10 n.natAbs)

/-- A word of 64 bits in a base. -/
def wordText (d : Directive) (base : Nat) (n : Int) : ByteText :=
  let value := (n % 0x10000000000000000).toNat
  let digits := d.digitsIn base value
  let marked := d.flags.contains '#'
  let digits :=
    if marked && base == 8 && digits.toList.head? != some '0' then "0" ++ digits else digits
  let mark := if marked && base == 16 && value != 0 then "0x" else ""
  d.signedDigits d.precision.isNone mark digits

/-- A binary number, written as a letter says. -/
def binaryText (d : Directive) (letter : Char) (b : Binary) : ByteText :=
  let pointAnyway := d.flags.contains '#'
  let text :=
    match b with
    | .infinite isNegative => d.padded (d.sign isNegative ++ "inf")
    | .undefined isNegative => d.padded (d.sign isNegative ++ "nan")
    | .finite isNegative m e =>
      let digits :=
        match letter.toLower with
        | 'f' => Binary.fixedDigits m e (d.precision.getD 6) pointAnyway
        | 'e' => Binary.scientificDigits m e (d.precision.getD 6) pointAnyway
        | 'g' => Binary.generalDigits m e (d.precision.getD 6) pointAnyway
        | _ => Binary.hexadecimalDigits m e d.precision
      match digits.toList with
      | '0' :: 'x' :: rest =>
        d.signedDigits true (d.sign isNegative ++ "0x") (String.ofList rest)
      | _ => d.signedDigits true (d.sign isNegative) digits
  if letter.isUpper then text.map Char.toUpper else text

end Directive

/-! ### Filling in -/

/-- Something that comes up while a format is filled in. -/
inductive FilledPart where
  /-- A part of the text. -/
  | text (t : ByteText)
  /-- Something to complain about. -/
  | complaint (t : ByteText)
  deriving DecidableEq, Repr

/-- The state of filling in. -/
structure Filling where
  /-- What has come up, the last part first. -/
  parts : List FilledPart
  /-- The arguments that are not used. -/
  left : List ByteText
  /-- The status. -/
  status : Nat
  /-- Whether the work ends before its end. -/
  ended : Bool

/-- A step of filling in. -/
abbrev Fill (α : Type) : Type := StateM Filling α

namespace Fill

/-- Add a text. -/
def emit (text : ByteText) : Fill Unit :=
  modify fun f => { f with parts := .text text :: f.parts }

/-- Complain. -/
def complain (status : Nat) (text : ByteText) : Fill Unit :=
  modify fun f =>
    { f with parts := .complaint text :: f.parts, status := max f.status status }

/-- Complain and end. -/
def stop (status : Nat) (text : ByteText) : Fill Unit := do
  complain status text
  modify fun f => { f with ended := true }

/-- Take the next argument, if there is one. -/
def argument? : Fill (Option ByteText) := do
  let f ← get
  set { f with left := f.left.tail }
  return f.left.head?

/-- Complain about an argument that is no number, or not as a whole. -/
def complainOfNumber (style : FormatStyle) (text : ByteText) (isPart : Bool) : Fill Unit :=
  match style with
  | .plain =>
    complain 1 (text ++ if isPart then ": not completely converted" else ": expected numeric value")
  | .rich => complain 1 (text ++ ": invalid number")
  | .program =>
    complain 1 ("'" ++ text ++ "': " ++
      if isPart then "value not completely converted" else "expected a numeric value")

/-- Complain about a number that is too large. -/
def complainOfRange (style : FormatStyle) (text : ByteText) : Fill Unit :=
  let reason := ": Numerical result out of range"
  match style with
  | .plain => complain 1 (text ++ reason)
  | .rich => complain 0 ("warning: " ++ text ++ reason)
  | .program => complain 1 ("'" ++ text ++ "'" ++ reason)

/-- The code of the character behind a quote. -/
def quotedCode? (text : ByteText) : Option Nat :=
  match text.toList with
  | '"' :: rest => some ((rest.head?.map Char.toNat).getD 0)
  | '\x27' :: rest => some ((rest.head?.map Char.toNat).getD 0)
  | _ => none

/-- The integer that the next argument stands for. Without an argument it is 0. -/
def integer (style : FormatStyle) (signed : Bool) : Fill Int := do
  match ← argument? with
  | none => return 0
  | some text =>
    match quotedCode? text with
    | some code => return code
    | none =>
      let chars := text.toList
      let (isNegative, unsigned) :=
        match chars.dropWhile isAroundNumber with
        | '-' :: rest => (true, rest)
        | '+' :: rest => (false, rest)
        | rest => (false, rest)
      let (base, digits, behind) := leadingDigits unsigned
      if digits.isEmpty then
        if !chars.isEmpty then complainOfNumber style text false
        return 0
      else
        let n := (numberIn? base digits).getD 0
        let n := if isNegative then -n else n
        let (low, high) : Int × Int :=
          if signed then (minNumber, maxNumber) else (-0xffffffffffffffff, 0xffffffffffffffff)
        if !behind.isEmpty then complainOfNumber style text true
        if n < low then
          complainOfRange style text
          return low
        else if high < n then
          complainOfRange style text
          return high
        else return n

/-- The binary number that the next argument stands for. -/
def binary (style : FormatStyle) : Fill Binary := do
  let width := if style = .plain then Width.double else .extended
  match ← argument? with
  | none => return .finite false 0 0
  | some text =>
    match quotedCode? text with
    | some code => return .nearest width false code 1
    | none =>
      match ReadNumber.atStart? true text.toList with
      | none =>
        if !text.isEmpty then complainOfNumber style text false
        return .finite false 0 0
      | some (n, behind) =>
        if !behind.isEmpty then complainOfNumber style text true
        return n.toBinary width

/-- A size that stands at the start of a text, or that an argument stands for. -/
def size (style : FormatStyle) (text : List Char) : Fill (Option Int × List Char) := do
  match text with
  | '*' :: rest => return (some (← integer style true), rest)
  | text =>
    let digits := text.takeWhile Char.isDigit
    return (if digits.isEmpty then none else numberIn? 10 digits, text.drop digits.length)

/-- Carry out a directive behind its percent sign. Gives the text behind it. -/
def directive (style : FormatStyle) (text : List Char) : Fill (List Char) := do
  let isFlag (c : Char) : Bool := ['-', '0', '+', ' ', '#', '\x27'].contains c
  let flags := text.takeWhile fun c => isFlag c && !(style == .plain && c == '\x27')
  let (width, rest) ← size style (text.drop flags.length)
  let flags := if (width.getD 0) < 0 then '-' :: flags else flags
  let (precision, rest) ←
    match rest with
    | '.' :: rest => do
      let (found, rest) ← size style rest
      let n := found.getD 0
      pure (if n < 0 then none else some n.toNat, rest)
    | rest => pure (none, rest)
  -- Letters that tell the size of a number have no meaning here.
  let rest :=
    if style = .plain then rest
    else rest.dropWhile fun c => ['h', 'l', 'L', 'j', 't', 'z', 'q'].contains c && c != 'q'
  let d : Directive := ⟨flags, (width.getD 0).natAbs, precision⟩
  match rest with
  | [] =>
    match style with
    | .plain => stop 2 "missing format character"
    | .rich =>
      stop 1 ("\x60%" ++ String.ofList text ++ "': missing format character")
    | .program => stop 1 ("%" ++ String.ofList text ++ ": invalid conversion specification")
    return []
  | letter :: behind =>
    let cut (t : ByteText) : ByteText :=
      d.precision.elim t fun n => String.ofList (t.toList.take n)
    match letter with
    | 's' => emit (d.padded (cut ((← argument?).getD "")))
    | 'b' =>
      let argument := (← argument?).getD ""
      let e := escaped (if style = .plain then .plainText else .richArgument) argument.toList
      emit (d.padded (cut e.text))
      if e.goesOn = false then modify fun f => { f with ended := true }
    | 'c' =>
      let argument ← argument?
      let first := String.ofList ((argument.getD "").toList.take 1)
      -- A text without bytes has the byte that ends texts.
      emit (d.padded (if first.isEmpty then (if style = .program then "" else "\x00") else first))
    | 'd' => emit (d.integerText (← integer style true))
    | 'i' => emit (d.integerText (← integer style true))
    | 'u' => emit (d.wordText 10 (← integer style false))
    | 'o' => emit (d.wordText 8 (← integer style false))
    | 'x' => emit (d.wordText 16 (← integer style false))
    | 'X' => emit ((d.wordText 16 (← integer style false)).map Char.toUpper)
    | letter =>
      if ['e', 'f', 'g', 'a', 'E', 'F', 'G', 'A'].contains letter then
        emit (d.binaryText letter (← binary style))
      else if letter = 'q' ∧ style ≠ .plain then
        emit (d.padded (backslashed ((← argument?).getD "")))
      else
        let shown := "%" ++ String.ofList (text.take (text.length - behind.length))
        match style with
        | .plain => stop 2 (shown ++ ": invalid directive")
        | .rich => stop 1 ("\x60" ++ letter.toString ++ "': invalid format character")
        | .program => stop 1 (shown ++ ": invalid conversion specification")
    return behind

/-- Fill in a format once. -/
def once (style : FormatStyle) : (fuel : Nat) → List Char → Fill Unit
  | 0, _ => pure ()
  | _ + 1, [] => pure ()
  | fuel + 1, c :: rest => do
    match c, rest with
    | '%', '%' :: rest =>
      emit "%"
      once style fuel rest
    | '%', rest =>
      let behind ← directive style rest
      if (← get).ended = false then once style fuel behind
    | '\\', [] => emit "\\"
    | '\\', letter :: digits =>
      let rest := letter :: digits
      let wanted := if letter = 'x' then 1 else if letter = 'u' then 4 else if letter = 'U' then 8
        else 0
      -- A program wants all digits of a number.
      if style = .program && !((digits.take wanted).all isHexDigit && wanted ≤ digits.length) then
        stop 1 "missing hexadecimal number in escape"
      else match escapeMeaning (if style = .plain then .plainFormat else .richFormat) rest with
      | some (meaning, length) =>
        emit meaning
        once style fuel (rest.drop length)
      | none => pure ()
    | c, rest =>
      let text := (c :: rest).takeWhile fun c => c != '%' && c != '\\'
      emit (String.ofList text)
      once style fuel ((c :: rest).drop text.length)

/-- Fill in a format until all arguments are used. -/
def all (style : FormatStyle) (format : List Char) : (fuel : Nat) → Fill Unit
  | 0 => pure ()
  | fuel + 1 => do
    let before := (← get).left.length
    once style (format.length + 1) format
    let after ← get
    if !after.ended && !after.left.isEmpty && after.left.length < before then
      all style format fuel

end Fill

/-- What became of a format. -/
structure FilledFormat where
  /-- What came up. -/
  parts : List FilledPart
  /-- The status. -/
  status : Nat

namespace FilledFormat

/-- The text. -/
def text (f : FilledFormat) : ByteText :=
  String.join (f.parts.filterMap fun part =>
    match part with
    | .text t => some t
    | .complaint _ => none)

/-- What there is to complain about. -/
def complaints (f : FilledFormat) : List ByteText :=
  f.parts.filterMap fun part =>
    match part with
    | .complaint t => some t
    | .text _ => none

end FilledFormat

/-- Fill in a format with arguments. -/
def fillFormat (style : FormatStyle) (format : ByteText) (arguments : List ByteText) :
    FilledFormat :=
  let start : Filling := ⟨[], arguments, 0, false⟩
  let (_, f) := ((Fill.all style format.toList (arguments.length + 1)).run start).run
  ⟨f.parts.reverse, f.status⟩

end DesignAtlas.Shell
