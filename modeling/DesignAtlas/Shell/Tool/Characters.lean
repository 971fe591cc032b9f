import DesignAtlas.Number.Binary
import DesignAtlas.Number.Total
import DesignAtlas.Regex.Reader
import DesignAtlas.Shell.Escape
import DesignAtlas.Shell.Tool.Basic

/-!
# Tools for characters

Tools that put characters in the place of others, break lines, and show bytes in digits.

* `translateCharacters` puts characters in the place of others, deletes or squeezes them.
* `foldLines`, `expandTabs` and `unexpandTabs` work on columns.
* `dumpBytes` and `encodeBytes` show bytes.
-/

namespace DesignAtlas.Shell.Tools

/-! ### Sets of characters -/

/-- A part of a set of characters. -/
inductive SetPart where
  /-- Characters one after the other. -/
  | characters (cs : List Char)
  /-- A class of characters. -/
  | named (name : String) (cs : List Char)
  /-- A character so many times, or as often as there is need for it. -/
  | repeated (c : Char) (count : Option Nat)

namespace SetPart

/-- The characters of a part, which fills up what is needed. -/
def filling (needed : Nat) : SetPart → List Char
  | characters cs => cs
  | named _ cs => cs
  | repeated c count => List.replicate (count.getD needed) c

end SetPart

/-- The character that an escape stands for, and the text behind it. -/
def escapedChar : List Char → Char × List Char
  | [] => ('\\', [])
  | c :: rest =>
    let digits := ((c :: rest).take 3).takeWhile isOctalDigit
    if !digits.isEmpty then
      let code := digits.foldl (fun n d => n * 8 + (d.toNat - 48)) 0
      if code < 256 then (Char.ofNat code, (c :: rest).drop digits.length)
      else (Char.ofNat (code / 8), (c :: rest).drop 2)
    else
      let letters : List (Char × Char) :=
        [('a', '\x07'), ('b', '\x08'), ('f', '\x0c'), ('n', '\n'), ('r', '\r'), ('t', '\t'),
          ('v', '\x0b')]
      ((letters.lookup c).getD c, rest)

/-- One character of a set and the text behind it. Whether it was escaped is known. -/
def setChar? : List Char → Option (Char × Bool × List Char)
  | [] => none
  | '\\' :: rest =>
    let (c, rest) := escapedChar rest
    some (c, true, rest)
  | c :: rest => some (c, false, rest)

/-- A class or a repetition in brackets, and the text behind it. -/
def bracketPart? (text : List Char) : Option (Except ByteText SetPart × List Char) :=
  match text with
  | ':' :: rest =>
    match Regex.splitBefore [':', ']'] rest with
    | some (name, behind) =>
      match Regex.classes.lookup (String.ofList name) with
      | some ranges =>
        let cs := ((List.range 256).map Char.ofNat).filter fun c =>
          ranges.any fun r => decide (r.1 ≤ c) && decide (c ≤ r.2)
        some (.ok (.named (String.ofList name) cs), behind)
      | none =>
        some (.error ("invalid character class " ++ quotedName (String.ofList name)), behind)
    | none => none
  | '=' :: c :: '=' :: ']' :: rest => some (.ok (.characters [c]), rest)
  | text =>
    match setChar? text with
    | some (c, _, '*' :: rest) =>
      let digits := rest.takeWhile Char.isDigit
      match rest.drop digits.length with
      | ']' :: behind =>
        let base := if digits.head? = some '0' then 8 else 10
        let count := digits.foldl (fun n d => n * base + (d.toNat - 48)) 0
        some (.ok (.repeated c (if count = 0 then none else some count)), behind)
      | _ => none
    | _ => none

/-- Read a set of characters, or say what is wrong with it. -/
def readSet : (fuel : Nat) → List Char → Except ByteText (List SetPart)
  | 0, _ => .ok []
  | fuel + 1, text => do
    let single (text : List Char) : Except ByteText (List SetPart) := do
      match setChar? text with
      | none => return []
      | some (first, _, '-' :: rest) =>
        match setChar? rest with
        | none => return [.characters [first, '-']]
        | some (last, _, behind) =>
          if last < first then
            let written := text.take (text.length - behind.length)
            throw ("range-endpoints of " ++ quotedName (String.ofList written) ++
              " are in reverse collating sequence order")
          let cs := (List.range (last.toNat + 1 - first.toNat)).map fun i =>
            Char.ofNat (first.toNat + i)
          return .characters cs :: (← readSet fuel behind)
      | some (c, _, rest) => return .characters [c] :: (← readSet fuel rest)
    match text with
    | '[' :: rest =>
      match bracketPart? rest with
      | some (part, behind) => return (← part) :: (← readSet fuel behind)
      | none => single text
    | text => single text

/-- The characters of a set. -/
def charactersOf (parts : List SetPart) (size : Nat) : List Char :=
  let fixed := Number.total (parts.map fun part =>
    match part with
    | .repeated _ none => 0
    | part => (part.filling 0).length)
  parts.flatMap (SetPart.filling (size - fixed))

/-- Keep one of several equal characters of a set that follow one another. -/
def squeezed (holds : Char → Bool) (text : List Char) : List Char :=
  (text.foldl (fun (state : List Char × Option Char) c =>
    if holds c && state.2 == some c then state else (c :: state.1, some c)) ([], none)).1.reverse

/-- Put characters in the place of others, delete or squeeze them. -/
def translateCharacters : Tool := fun c =>
  c.withLeadingOptions 1 "cCdst"
      [("complement", 'c', .never), ("delete", 'd', .never), ("squeeze-repeats", 's', .never),
        ("truncate-set1", 't', .never)] fun o => do
    let deletes := o.has 'd'
    let squeezes := o.has 's'
    let complements := o.has 'c' || o.has 'C'
    let least := if deletes == squeezes then 2 else 1
    let most := if deletes && !squeezes then 1 else 2
    let hint (text : ByteText) : Run Nat := do
      write 2 (text ++ "\n")
      c.pointToHelp 1
    match o.operands, decide (o.operands.length < least), decide (most < o.operands.length) with
    | [], _, _ => c.misused 1 "missing operand"
    | operands, true, _ =>
      c.say ("missing operand after " ++ quotedName (operands.getLast?.getD ""))
      hint (if squeezes then
        "Two strings must be given when both deleting and squeezing repeats."
        else "Two strings must be given when translating.")
    | operands, _, true =>
      c.say ("extra operand " ++ quotedName (operands.getD most ""))
      if operands.length = 2 then
        hint "Only one string may be given when deleting without squeezing repeats."
      else c.pointToHelp 1
    | operands, _, _ =>
      let first := operands.headD ""
      let sets : Except ByteText (List SetPart × List SetPart) := do
        let one ← readSet (first.length + 1) first.toList
        let second := operands.getD 1 ""
        let two ← readSet (second.length + 1) second.toList
        return (one, two)
      match sets with
      | .error message => c.fail 1 message
      | .ok (one, two) =>
        let listed := charactersOf one 0
        let first := if complements then
          ((List.range 256).map Char.ofNat).filter (!listed.contains ·) else listed
        let isIn := first.contains
        let hasSecond := 1 < operands.length
        let translates := !deletes && hasSecond
        let second := charactersOf two (if translates then first.length else 0)
        if translates && second.isEmpty && !o.has 't' then
          return ← c.fail 1 "when not truncating set1, string2 must be non-empty"
        let isOther (part : SetPart) : Bool :=
          match part with
          | .named name _ => !(["upper", "lower"].contains name)
          | _ => false
        if translates && two.any isOther then
          return ← c.fail 1 ("when translating, the only character classes that may appear in\n" ++
            "string2 are 'upper' and 'lower'")
        match ← contentOf "-" with
        | .error fault => c.fail 1 ("read error: " ++ fault.reason)
        | .ok content =>
          let text := content.toList
          let last := second.getLast?
          -- A later place of a character in the set counts more than an earlier one.
          let table := (first.zipIdx.map fun (known, i) =>
            (known, (second[i]?).getD ((if o.has 't' then none else last).getD known))).reverse
          let image := (List.range 256).toArray.map fun n =>
            (table.lookup (Char.ofNat n)).getD (Char.ofNat n)
          let changed :=
            if deletes then text.filter (!isIn ·)
            else if translates then text.map fun c => image.getD c.toNat c
            else text
          let result :=
            if squeezes then squeezed (if hasSecond then second.contains else isIn) changed
            else changed
          write 1 (String.ofList result)
          return 0

/-! ### Columns -/

/-- The column behind a character. -/
def columnAfter (countsBytes : Bool) (column : Nat) (c : Char) : Nat :=
  if countsBytes then column + 1
  else if c = '\t' then column + 8 - column % 8
  else if c = '\x08' then column - 1
  else if c = '\r' then 0
  else column + 1

/-- The column behind characters. -/
def columnAfterAll (countsBytes : Bool) (cs : List Char) : Nat :=
  cs.foldl (columnAfter countsBytes) 0

/-- Break a line that is wider than allowed. -/
def foldedLine (width : Nat) (countsBytes atBlanks : Bool) :
    (fuel : Nat) → (reversed : List Char) → (column : Nat) → List Char → List Char
  | 0, reversed, _, rest => reversed.reverse ++ rest
  | _ + 1, reversed, _, [] => reversed.reverse
  | fuel + 1, reversed, column, c :: rest =>
    let next := columnAfter countsBytes column c
    if next ≤ width ∨ reversed.isEmpty then
      foldedLine width countsBytes atBlanks fuel (c :: reversed) next rest
    else
      let behind := if atBlanks then reversed.takeWhile (!isBlank ·) else []
      let behind := if behind.length = reversed.length then [] else behind
      let line := (reversed.drop behind.length).reverse
      let kept := behind.reverse
      line ++ '\n' :: foldedLine width countsBytes atBlanks fuel behind
        (columnAfterAll countsBytes kept) (c :: rest)

/-- Break lines that are wider than allowed. -/
def foldLines : Tool := fun c =>
  c.withNumbers 'w' 1 "bsw:"
      [("bytes", 'b', .never), ("spaces", 's', .never), ("width", 'w', .always)] fun o => do
    let text := (o.value? 'w').getD "80"
    match (natural? text).filter fun n => 0 < n && !text.isEmpty with
    | none => c.fail 1 ("invalid number of columns: " ++ quotedName text)
    | some width =>
      return statusOf (← c.forContents o.files fun _ content => do
        let lines := splitLines '\n' content.toList
        write 1 <| String.join <| lines.map fun line =>
          let inner := unended '\n' line
          let broken := foldedLine width (o.has 'b') (o.has 's') (3 * inner.length + 3) [] 0 inner
          String.ofList (broken ++ line.drop inner.length))

/-- The places of tabs. Behind the last one they stand at even distances, or there are none. -/
structure TabStops where
  /-- The places that are named. -/
  places : List Nat
  /-- The distance of the other ones. -/
  distance : Option Nat

namespace TabStops

/-- The places of tabs that a text names. -/
def ofText? (text : ByteText) : Option TabStops := do
  let numbers ← (((text.splitOn ",").flatMap fun part => part.splitOn " ").filter (· != "")).mapM
    natural?
  match numbers with
  | [] => return ⟨[], some 8⟩
  | [n] => return ⟨[], some (max n 1)⟩
  | places => return ⟨places, none⟩

/-- The next place behind a column. -/
def next? (t : TabStops) (column : Nat) : Option Nat :=
  match t.places.find? (column < ·), t.distance with
  | some place, _ => some place
  | none, some d => some (column + d - column % d)
  | none, none => none

end TabStops

/-- Put blanks in the place of tabs in a line. -/
def expandedLine (t : TabStops) (onlyFirst : Bool) (line : List Char) : ByteText :=
  (line.foldl (fun (state : ByteText × Nat × Bool) c =>
    let (text, column, inBlanks) := state
    let inBlanks := inBlanks && isBlank c
    if c = '\t' ∧ (inBlanks ∨ !onlyFirst) then
      let next := (t.next? column).getD (column + 1)
      (text.pushn ' ' (next - column), next, inBlanks)
    else if c = '\x08' then (text.push c, column - 1, inBlanks)
    else (text.push c, column + 1, inBlanks)) ("", 0, true)).1

/-- Put tabs in the place of blanks in a line. -/
def unexpandedLine (t : TabStops) (everywhere : Bool) :
    (fuel : Nat) → (column : Nat) → (pending : List Char) → (inBlanks : Bool) → List Char →
      List Char
  | 0, _, pending, _, rest => pending.reverse ++ rest
  | _ + 1, _, pending, _, [] => pending.reverse
  | fuel + 1, column, pending, inBlanks, c :: rest =>
    if inBlanks && isBlank c then
      match t.next? column with
      | none =>
        unexpandedLine t everywhere fuel (column + 1) (c :: pending) inBlanks rest
      | some next =>
        if c = '\t' then '\t' :: unexpandedLine t everywhere fuel next [] inBlanks rest
        else if column + 1 = next then
          -- A single blank before a stop stays unless more blanks follow.
          let isSingle := pending.isEmpty && !(rest.head?.any isBlank)
          if isSingle && column != 0 then
            ' ' :: unexpandedLine t everywhere fuel next [] inBlanks rest
          else '\t' :: unexpandedLine t everywhere fuel next [] inBlanks rest
        else unexpandedLine t everywhere fuel (column + 1) (c :: pending) inBlanks rest
    else
      pending.reverse ++
        c :: unexpandedLine t everywhere fuel (column + 1) [] everywhere rest

/-- Change the lines of files one by one. -/
def changeLines (c : Call) (files : List ByteText) (change : List Char → ByteText) : Run Nat := do
  return statusOf (← c.forContents files fun _ content =>
    write 1 <| String.join <| (splitLines '\n' content.toList).map fun line =>
      let inner := unended '\n' line
      change inner ++ String.ofList (line.drop inner.length))

/-- Put blanks in the place of tabs. -/
def expandTabs : Tool := fun c =>
  c.withNumbers 't' 1 "it:" [("initial", 'i', .never), ("tabs", 't', .always)] fun o => do
    match TabStops.ofText? ((o.value? 't').getD "8") with
    | some t => changeLines c o.files (expandedLine t (o.has 'i'))
    | none =>
      c.fail 1 ("tab size contains invalid character(s): " ++ quotedName ((o.value? 't').getD ""))

/-- Put tabs in the place of blanks. -/
def unexpandTabs : Tool := fun c =>
  c.withOptions 1 "at:"
      [("all", 'a', .never), ("first-only", 'f', .never), ("tabs", 't', .always)] fun o => do
    let everywhere := (o.has 'a' || o.has 't') && !o.has 'f'
    match TabStops.ofText? ((o.value? 't').getD "8") with
    | some t =>
      changeLines c o.files fun line =>
        String.ofList (unexpandedLine t everywhere (line.length + 1) 0 [] true line)
    | none =>
      c.fail 1 ("tab size contains invalid character(s): " ++ quotedName ((o.value? 't').getD ""))

/-! ### Bytes -/

/-- A way of showing bytes. -/
structure ByteFormat where
  /-- The number of bytes that are shown together. -/
  size : Nat
  /-- The number of characters that show them. -/
  width : Nat
  /-- How the bytes are shown, which stand for a number, the first one for its lowest part. -/
  shown : Nat → ByteText
  /-- Whether the characters are shown behind the bytes as well. -/
  showsText : Bool

namespace ByteFormat

/-- A number in digits of a base. -/
def digits (base width n : Nat) : ByteText :=
  let text := String.ofList (Nat.toDigits base n)
  "".pushn '0' (width - text.length) ++ text

/-- A number with a sign. -/
def signed (size n : Nat) : ByteText :=
  let limit := Nat.pow 2 (8 * size)
  if 2 * n < limit then Nat.repr n else "-" ++ Nat.repr (limit - n)

/-- The number of digits of the greatest number. -/
def digitCount (base size : Nat) : Nat :=
  (Nat.toDigits base (Nat.pow 2 (8 * size) - 1)).length

/-- A byte as a character, with a backslash if it cannot be printed. -/
def character (n : Nat) : ByteText :=
  let letters : List (Nat × ByteText) :=
    [(0, "\\0"), (7, "\\a"), (8, "\\b"), (9, "\\t"), (10, "\\n"), (11, "\\v"), (12, "\\f"),
      (13, "\\r")]
  match letters.lookup n with
  | some text => text
  | none => if 32 ≤ n ∧ n < 127 then (Char.ofNat n).toString else digits 8 3 n

/-- A byte by its name. -/
def named (n : Nat) : ByteText :=
  let names := ["nul", "soh", "stx", "etx", "eot", "enq", "ack", "bel", "bs", "ht", "nl", "vt",
    "ff", "cr", "so", "si", "dle", "dc1", "dc2", "dc3", "dc4", "nak", "syn", "etb", "can", "em",
    "sub", "esc", "fs", "gs", "rs", "us", "sp"]
  let n := n % 128
  if n = 127 then "del" else (names[n]?).getD (Char.ofNat n).toString

/-- The binary number of 32 or 64 bits that bytes stand for. -/
def real (size n : Nat) : ByteText :=
  let (w, bits, places) : Number.Width × Nat × Nat :=
    if size = 4 then (⟨24, -149, 127⟩, 23, 9) else (.double, 52, 17)
  let sign := n / Nat.pow 2 (8 * size - 1) % 2
  let power := n / Nat.pow 2 bits % Nat.pow 2 (8 * size - 1 - bits)
  let fraction := n % Nat.pow 2 bits
  let mark := if sign = 1 then "-" else ""
  let value (m : Nat) (e : Int) : ByteText :=
    -- The fewest digits that lead back to the number are shown.
    let (a, b) := Number.scaled 2 m e
    let exact := Number.Binary.nearest w false a b
    let candidates := (List.range places).map fun p => Number.Binary.generalDigits m e (p + 1) false
    let leadsBack (text : String) : Bool :=
      match Number.ReadNumber.atStart? false text.toList with
      | some (read, _) => read.toBinary w == exact
      | none => false
    mark ++ (candidates.find? leadsBack).getD (candidates.getLast?.getD "")
  let top := Nat.pow 2 (8 * size - 1 - bits) - 1
  if power = top then mark ++ if fraction = 0 then "inf" else "nan"
  else if power = 0 ∧ fraction = 0 then mark ++ "0"
  else if power = 0 then value fraction w.least
  else value (fraction + Nat.pow 2 bits) (w.least + power - 1)

/-- The way that a letter and a size stand for. -/
def ofLetter? (letter : Char) (size : Nat) (showsText : Bool) : Option ByteFormat :=
  match letter with
  | 'o' => some ⟨size, digitCount 8 size, digits 8 (digitCount 8 size), showsText⟩
  | 'x' => some ⟨size, 2 * size, digits 16 (2 * size), showsText⟩
  | 'u' => some ⟨size, digitCount 10 size, Nat.repr, showsText⟩
  | 'd' => some ⟨size, digitCount 10 size + (if size = 8 then 0 else 1), signed size, showsText⟩
  | 'f' => some ⟨size, if size = 4 then 15 else 24, real size, showsText⟩
  | 'c' => some ⟨1, 3, character, showsText⟩
  | 'a' => some ⟨1, 3, named, showsText⟩
  | _ => none

/-- The ways that the text of an option stands for. -/
def ofText? : (fuel : Nat) → List Char → Option (List ByteFormat)
  | 0, _ => none
  | _ + 1, [] => some []
  | fuel + 1, letter :: rest => do
    let sizes : List (Char × Nat) :=
      [('C', 1), ('S', 2), ('I', 4), ('L', 8), ('F', 4), ('D', 8)]
    let (size, rest) ←
      if letter = 'c' ∨ letter = 'a' then some (1, rest)
      else
        match leading rest with
        | some (n, rest) => if [1, 2, 4, 8].contains n then some (n, rest) else none
        | none =>
          match rest with
          | c :: behind =>
            match sizes.lookup c with
            | some n => some (n, behind)
            | none => some (if letter = 'f' then 8 else 4, rest)
          | [] => some (if letter = 'f' then 8 else 4, [])
    let (showsText, rest) := match rest with
      | 'z' :: rest => (true, rest)
      | rest => (false, rest)
    let format ← ofLetter? letter size showsText
    return format :: (← ofText? fuel rest)
where
  /-- A number at the start of a text, with the text behind it. -/
  leading (text : List Char) : Option (Nat × List Char) :=
    let digits := text.takeWhile Char.isDigit
    if digits.isEmpty then none
    else (natural? (String.ofList digits)).map fun n => (n, text.drop digits.length)

end ByteFormat

/-- The parts of a list of a length. The last one may be shorter. -/
def chunksOf {α : Type} (size : Nat) : (fuel : Nat) → List α → List (List α)
  | 0, _ => []
  | _ + 1, [] => []
  | fuel + 1, items => items.take size :: chunksOf size fuel (items.drop size)

/-- The number that bytes stand for, the first one for its lowest part. -/
def littleEndian : List Char → Nat
  | [] => 0
  | c :: rest => c.toNat + 256 * littleEndian rest

/-- Show bytes in digits or by their names. -/
def dumpBytes : Tool := fun c =>
  c.withOptions 1 "A:j:N:S:t:vw::abcdfhiloxs"
      [("address-radix", 'A', .always), ("skip-bytes", 'j', .always),
        ("read-bytes", 'N', .always), ("format", 't', .always),
        ("output-duplicates", 'v', .never), ("width", 'w', .perhaps)] fun o => do
    let short : List (Char × String) :=
      [('a', "a"), ('b', "o1"), ('c', "c"), ('d', "u2"), ('f', "f4"), ('h', "x2"), ('i', "d4"),
        ('l', "d8"), ('o', "o2"), ('x', "x2"), ('s', "d2")]
    let texts := o.options.filterMap fun (letter, value?) =>
      if letter = 't' then value? else short.lookup letter
    let texts := if texts.isEmpty then ["o2"] else texts
    match texts.find? fun t => (ByteFormat.ofText? (t.length + 1) t.toList).isNone with
    | some text => c.fail 1 ("invalid type string " ++ quotedName text)
    | none =>
      let formats := texts.flatMap fun t =>
        (ByteFormat.ofText? (t.length + 1) t.toList).getD []
      let base? : Option (Option Nat) :=
        match (o.value? 'A').getD "o" with
        | "o" => some (some 8)
        | "d" => some (some 10)
        | "x" => some (some 16)
        | "n" => some none
        | _ => none
      match base? with
      | none =>
        c.fail 1 ("invalid output address radix " ++ quotedName ((o.value? 'A').getD "") ++
          "; it must be one character from [doxn]")
      | some base =>
        let (contents, fine) ← c.contents o.files
        let skipped := ((o.value? 'j').bind sizeOf?).getD 0
        let all := (String.join contents).toList.drop skipped
        let bytes := ((o.value? 'N').bind sizeOf?).elim all all.take
        let perLine :=
          if o.has 'w' then ((o.value? 'w').bind natural?).getD 32 else 16
        let perLine := max perLine 1
        let address (n : Nat) : ByteText :=
          match base with
          | some base =>
            let width := if base = 16 then 6 else 7
            ByteFormat.digits base width n
          | none => ""
        -- All formats of a line are as wide as the widest one.
        let blockWidth (f : ByteFormat) : Nat := (f.width + 1) * (perLine / f.size)
        let widest := (formats.map blockWidth).foldl max 0
        let line (place : Nat) (chunk : List Char) : ByteText :=
          String.join <| formats.zipIdx.map fun (f, i) =>
            let count := perLine / f.size
            let extra := widest - blockWidth f
            let cells := (chunksOf f.size (chunk.length + 1) chunk).zipIdx.map fun (cell, j) =>
              let share := extra * (count - j) / count - extra * (count - j - 1) / count
              let text := f.shown (littleEndian cell)
              "".pushn ' ' (f.width + 1 + share - text.length) ++ text
            let head := if i = 0 then address (skipped + place)
              else "".pushn ' ' (address (skipped + place)).length
            let text := String.join cells
            let tail :=
              if f.showsText then
                "".pushn ' ' (widest - text.length) ++ "  >" ++
                  String.ofList (chunk.map fun c => if isPrintable c then c else '.') ++ "<"
              else ""
            head ++ text ++ tail ++ "\n"
        let chunks := chunksOf perLine (bytes.length + 1) bytes
        let step (state : ByteText × Nat × Option (List Char) × Bool) (chunk : List Char) :
            ByteText × Nat × Option (List Char) × Bool :=
          let (text, place, last, isSkipping) := state
          let next := place + chunk.length
          if !o.has 'v' && last == some chunk && chunk.length == perLine &&
              next != bytes.length then
            (if isSkipping then text else text ++ "*\n", next, last, true)
          else (text ++ line place chunk, next, some chunk, false)
        let (text, place, _, _) := chunks.foldl step ("", 0, none, false)
        write 1 text
        if base.isSome then write 1 (address (skipped + place) ++ "\n")
        return statusOf fine

/-- The characters that stand for six bits each. -/
def sixBitChars : List Char :=
  "ABCDEFGHIJKLMNOPQRSTUVWXYZabcdefghijklmnopqrstuvwxyz0123456789+/".toList

/-- Bytes in characters that stand for six bits each. -/
def encodedSixBits : List Char → List Char
  | a :: b :: c :: rest =>
    let n := (a.toNat * 256 + b.toNat) * 256 + c.toNat
    [n / 262144, n / 4096 % 64, n / 64 % 64, n % 64].map (sixBitChars.getD · '=') ++
      encodedSixBits rest
  | [a, b] =>
    let n := (a.toNat * 256 + b.toNat) * 4
    [n / 4096, n / 64 % 64, n % 64].map (sixBitChars.getD · '=') ++ ['=']
  | [a] =>
    let n := a.toNat * 16
    [n / 64, n % 64].map (sixBitChars.getD · '=') ++ ['=', '=']
  | [] => []

/-- The bytes that characters stand for, and whether all of the text was understood. -/
def decodedSixBits : List Char → List Char × Bool
  | a :: b :: c :: d :: rest =>
    let value? (c : Char) : Option Nat := sixBitChars.findIdx? (· == c)
    match value? a, value? b, value? c, value? d with
    | some x, some y, some z, some w =>
      let n := ((x * 64 + y) * 64 + z) * 64 + w
      let (others, fine) := decodedSixBits rest
      ([n / 65536, n / 256 % 256, n % 256].map Char.ofNat ++ others, fine)
    | some x, some y, some z, none =>
      let n := (x * 64 + y) * 64 + z
      ([n / 1024, n / 4 % 256].map Char.ofNat, d == '=' && rest.isEmpty)
    | some x, some y, none, _ =>
      ([Char.ofNat ((x * 64 + y) / 16)], c == '=' && d == '=' && rest.isEmpty)
    | _, _, _, _ => ([], false)
  | [] => ([], true)
  | _ => ([], false)

/-- Write bytes in characters that stand for six bits each, or the other way round. -/
def encodeBytes : Tool := fun c =>
  c.withOptions 1 "diw:"
      [("decode", 'd', .never), ("ignore-garbage", 'i', .never), ("wrap", 'w', .always)] fun o => do
    match o.operands with
    | _ :: extra :: _ => c.misused 1 ("extra operand " ++ quotedName extra)
    | operands =>
      let path := operands.headD "-"
      match ← contentOf path with
      | .error fault =>
        match fault with
        | .directory => c.fail 1 ("read error: " ++ fault.reason)
        | _ => c.fail 1 (shownName path ++ ": " ++ fault.reason)
      | .ok content =>
        if o.has 'd' then
          let isKnown (c : Char) : Bool := sixBitChars.contains c || c == '='
          let text := content.toList.filter fun c =>
            if o.has 'i' then isKnown c else c != '\n'
          let (bytes, fine) := decodedSixBits text
          write 1 (String.ofList bytes)
          if !fine then c.say "invalid input"
          return statusOf fine
        else
          let text := encodedSixBits content.toList
          let width := ((o.value? 'w').bind natural?).getD 76
          if width = 0 then write 1 (String.ofList text)
          else writeLines ((chunksOf width (text.length + 1) text).map String.ofList)
          return 0

end DesignAtlas.Shell.Tools
