import DesignAtlas.Number.Binary
import DesignAtlas.Shell.Tool.Basic

/-!
# Orders of lines

How lines are compared when they are sorted: as texts, as numbers of several kinds, as months or as
versions, as a whole or by keys in them.

* `SortKey.range` is the part of a line that a key is about.
* `SortKey.compare` compares two lines by a key.
-/

namespace DesignAtlas.Shell.Tools

/-! ### Texts and numbers -/

/-- Compare two lists of characters, the shorter one first if it starts the other. -/
def compareChars : List Char → List Char → Ordering
  | [], [] => .eq
  | [], _ :: _ => .lt
  | _ :: _, [] => .gt
  | a :: as, b :: bs => (compare a.toNat b.toNat).then (compareChars as bs)

/-- A decimal number: whether it is negative, and the digits before and behind its point. -/
structure DecimalText where
  /-- Whether there is a minus sign. -/
  isNegative : Bool
  /-- The digits before the point. -/
  whole : List Char
  /-- The digits behind the point. -/
  fraction : List Char
  /-- The text behind the number. -/
  rest : List Char

namespace DecimalText

/-- The number at the start of a text, behind blanks. -/
def ofText (text : List Char) : DecimalText :=
  let text := text.dropWhile fun c => c == ' ' || c == '\t' || c == '\n'
  let (isNegative, text) := match text with
    | '-' :: rest => (true, rest)
    | text => (false, text)
  let whole := text.takeWhile Char.isDigit
  let behind := text.drop whole.length
  match behind with
  | '.' :: rest =>
    let fraction := rest.takeWhile Char.isDigit
    ⟨isNegative, whole, fraction, rest.drop fraction.length⟩
  | _ => ⟨isNegative, whole, [], behind⟩

/-- The number as an integer, with so many digits behind the point. -/
def scaled (d : DecimalText) (places : Nat) : Int :=
  let digits := d.whole ++ d.fraction ++ List.replicate (places - d.fraction.length) '0'
  let n : Nat := digits.foldl (fun n c => n * 10 + (c.toNat - 48)) 0
  if d.isNegative then -(n : Int) else n

/-- Compare two numbers. -/
def compare (a b : DecimalText) : Ordering :=
  let places := max a.fraction.length b.fraction.length
  Ord.compare (a.scaled places) (b.scaled places)

/-- The power that a letter behind the number stands for, with the sign of the number. -/
def unitOrder (d : DecimalText) : Int :=
  let units : List (Char × Int) :=
    [('K', 1), ('k', 1), ('M', 2), ('G', 3), ('T', 4), ('P', 5), ('E', 6), ('Z', 7), ('Y', 8)]
  let power := (d.rest.head?.bind fun c => units.lookup c).getD 0
  if d.scaled d.fraction.length = 0 then 0 else if d.isNegative then -power else power

end DecimalText

/-- The place of the month that a text names in the year. -/
def monthOf (text : List Char) : Nat :=
  let name := ((text.dropWhile isBlank).take 3).map Char.toUpper
  let months := ["JAN", "FEB", "MAR", "APR", "MAY", "JUN", "JUL", "AUG", "SEP", "OCT", "NOV", "DEC"]
  (months.findIdx? (·.toList == name)).elim 0 (· + 1)

/-- Compare two texts as numbers with exponents. What is no number comes first. -/
def compareGeneral (a b : List Char) : Ordering :=
  let value? (text : List Char) : Option Float :=
    let text := text.dropWhile fun c => c == ' ' || ('\t' ≤ c && c ≤ '\r')
    (Number.ReadNumber.atStart? true text).map fun n => (n.1.toBinary .double).toFloat
  match value? a, value? b with
  | none, none => .eq
  | none, some _ => .lt
  | some _, none => .gt
  | some x, some y =>
    match x.isNaN, y.isNaN with
    | true, true => .eq
    | true, false => .lt
    | false, true => .gt
    | false, false => if x < y then .lt else if y < x then .gt else .eq

/-! ### Versions -/

/-- The place of a character that is no digit among those of versions. -/
def versionRank (c : Option Char) : Int :=
  match c with
  | none => -1
  | some c =>
    if c = '~' then -2
    else if c.isDigit then 0
    else if c.isAlpha then c.toNat
    else c.toNat + 256

/-- Compare the characters that are no digits at the start of two texts. Gives the texts behind. -/
def compareMarks : (fuel : Nat) → List Char → List Char → Ordering × List Char × List Char
  | 0, a, b => (.eq, a, b)
  | fuel + 1, a, b =>
    let isMark (text : List Char) : Bool := text.head?.any (!·.isDigit)
    if !isMark a && !isMark b then (.eq, a, b)
    else
      match compare (versionRank a.head?) (versionRank b.head?) with
      | .eq => compareMarks fuel a.tail b.tail
      | o => (o, a, b)

/-- Compare two versions part by part. -/
def compareParts : (fuel : Nat) → List Char → List Char → Ordering
  | 0, _, _ => .eq
  | fuel + 1, a, b =>
    if a.isEmpty && b.isEmpty then .eq
    else
      match compareMarks (a.length + b.length + 1) a b with
      | (.eq, a, b) =>
        let a := a.dropWhile (· == '0')
        let b := b.dropWhile (· == '0')
        let first := a.takeWhile Char.isDigit
        let second := b.takeWhile Char.isDigit
        match (compare first.length second.length).then (compareChars first second) with
        | .eq => compareParts fuel (a.drop first.length) (b.drop second.length)
        | o => o
      | (o, _, _) => o

/-- A version without the ending of a file name behind it. -/
def withoutEnding (text : List Char) : List Char :=
  -- An ending is a dot, a letter or tilde, and letters, digits and tildes.
  let isInner (c : Char) : Bool := c.isAlphanum || c == '~'
  let rec strip : (fuel : Nat) → List Char → List Char
    | 0, reversed => reversed
    | fuel + 1, reversed =>
      let inner := reversed.takeWhile isInner
      match inner.getLast?, reversed.drop inner.length with
      | some first, '.' :: rest => if first.isDigit then reversed else strip fuel rest
      | _, _ => reversed
  let stripped := (strip text.length text.reverse).reverse
  if stripped.isEmpty then text else stripped

/-- Compare two texts as versions. -/
def compareVersions (a b : List Char) : Ordering :=
  if a = b then .eq
  else
    let rank (text : List Char) : Nat :=
      match text with
      | [] => 0
      | ['.'] => 1
      | ['.', '.'] => 2
      | '.' :: _ => 3
      | _ => 4
    match compare (rank a) (rank b) with
    | .eq =>
      let fuel := a.length + b.length + 1
      (compareParts fuel (withoutEnding a) (withoutEnding b)).then <|
        (compareParts fuel a b).then (compareChars a b)
    | o => o

/-! ### Keys -/

/-- A key that lines are sorted by. -/
structure SortKey where
  /-- The number of fields before the key. -/
  firstField : Nat
  /-- The number of characters before the key in its first field. -/
  firstChar : Nat
  /-- The number of fields before the last one, if the key does not go on to the end. -/
  lastField : Option Nat
  /-- The number of characters of the last field, or 0 for all of it. -/
  lastChar : Nat
  /-- The letters of the ways of comparing. -/
  letters : List Char
  /-- Whether blanks before the start are skipped. -/
  skipsAtStart : Bool
  /-- Whether blanks before the end are skipped. -/
  skipsAtEnd : Bool

namespace SortKey

/-- The text behind so many fields. -/
def afterFields (separator : Option Char) : Nat → List Char → List Char
  | 0, text => text
  | n + 1, text =>
    match separator with
    | some c => afterFields separator n ((text.dropWhile (· != c)).drop 1)
    | none =>
      let gap (c : Char) : Bool := isBlank c || c == '\n'
      afterFields separator n ((text.dropWhile gap).dropWhile (!gap ·))

/-- The part of a line that the key is about. -/
def range (k : SortKey) (separator : Option Char) (line : List Char) : List Char :=
  let gap (c : Char) : Bool := isBlank c || c == '\n'
  let behind := afterFields separator k.firstField line
  let behind := if k.skipsAtStart then behind.dropWhile gap else behind
  let start := line.length - behind.length + min k.firstChar behind.length
  let stop :=
    match k.lastField with
    | none => line.length
    | some field =>
      if k.lastChar = 0 then
        let before := afterFields separator field line
        let inner := match separator with
          | some c => before.dropWhile (· != c)
          | none => (before.dropWhile gap).dropWhile (!gap ·)
        line.length - inner.length
      else
        let before := afterFields separator field line
        let before := if k.skipsAtEnd then before.dropWhile gap else before
        line.length - before.length + min k.lastChar before.length
  (line.drop start).take (stop - start)

/-- The text that is compared in the place of a part of a line. -/
def folded (k : SortKey) (text : List Char) : List Char :=
  let kept :=
    if k.letters.contains 'd' then text.filter fun c => c.isAlphanum || isBlank c
    else if k.letters.contains 'i' then text.filter isPrintable
    else text
  if k.letters.contains 'f' then kept.map Char.toUpper else kept

/-- Compare two parts of lines. -/
def compareRanges (k : SortKey) (a b : List Char) : Ordering :=
  let has := k.letters.contains
  if has 'n' then (DecimalText.ofText a).compare (DecimalText.ofText b)
  else if has 'g' then compareGeneral a b
  else if has 'h' then
    let x := DecimalText.ofText a
    let y := DecimalText.ofText b
    (compare x.unitOrder y.unitOrder).then (x.compare y)
  else if has 'M' then compare (monthOf a) (monthOf b)
  else if has 'V' then compareVersions a b
  else compareChars (k.folded a) (k.folded b)

/-- Compare two lines by the key. -/
def compare (k : SortKey) (separator : Option Char) (a b : List Char) : Ordering :=
  let o := k.compareRanges (k.range separator a) (k.range separator b)
  if k.letters.contains 'r' then o.swap else o

end SortKey

end DesignAtlas.Shell.Tools
