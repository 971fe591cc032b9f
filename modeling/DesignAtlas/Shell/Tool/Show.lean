import DesignAtlas.Number.Total
import DesignAtlas.Shell.Tool.Basic

/-!
# Tools that show files

Whole files, their beginnings and ends, their lines in another order or with numbers, and how much
there is in them.

* `showFiles`, `showStart` and `showEnd` write files or parts of them.
* `countContents` counts lines, words and bytes.
-/

namespace DesignAtlas.Shell.Tools

/-! ### Whole files -/

/-- How files are shown. -/
structure Showing where
  /-- Whether lines get numbers. -/
  numbers : Bool
  /-- Whether empty lines get none. -/
  skipsEmpty : Bool
  /-- Whether empty lines behind an empty line are left out. -/
  squeezes : Bool
  /-- Whether the ends of lines are marked. -/
  marksEnds : Bool
  /-- Whether tabs are written in letters. -/
  spellsTabs : Bool
  /-- Whether other characters that cannot be printed are. -/
  spellsOthers : Bool

/-- A character in letters. -/
def spelled (o : Showing) (c : Char) : ByteText :=
  let code := c.toNat
  let low (code : Nat) : ByteText :=
    if code < 32 then "^" ++ (Char.ofNat (code + 64)).toString
    else if code = 127 then "^?"
    else (Char.ofNat code).toString
  if c = '\t' then if o.spellsTabs then "^I" else "\t"
  else if !o.spellsOthers then c.toString
  else if code < 128 then low code
  else "M-" ++ low (code - 128)

/-- What is known while files are shown. -/
structure Shown where
  /-- The text that is written. -/
  text : ByteText
  /-- The number of the last line. -/
  number : Nat
  /-- The number of line ends just before, if a line starts here. -/
  lineEnds : Option Nat
  /-- Whether a carriage return is kept back. -/
  heldReturn : Bool

namespace Shown

/-- Add the number of a line. -/
def numbered (shown : Shown) : Shown :=
  let number := shown.number + 1
  let digits := Nat.repr number
  let gap := "".pushn ' ' (6 - digits.length)
  { shown with text := shown.text ++ gap ++ digits ++ "\t", number := number }

/-- Show a character. -/
def add (o : Showing) (shown : Shown) (c : Char) : Shown :=
  if c = '\n' then
    let count := shown.lineEnds.elim 0 (· + 1)
    if 2 ≤ count ∧ o.squeezes then { shown with lineEnds := some 2 }
    else
      let shown := if 1 ≤ count && o.numbers && !o.skipsEmpty then shown.numbered else shown
      let return_ := if shown.heldReturn then (if o.marksEnds then "^M" else "\r") else ""
      { shown with
        text := shown.text ++ return_ ++ (if o.marksEnds then "$" else "") ++ "\n",
        lineEnds := some (min 2 count), heldReturn := false }
  else
    let shown := if shown.lineEnds.isSome && o.numbers then shown.numbered else shown
    let shown :=
      if shown.heldReturn then { shown with text := shown.text.push '\r', heldReturn := false }
      else shown
    if c = '\r' ∧ o.marksEnds ∧ !o.spellsOthers then
      { shown with lineEnds := none, heldReturn := true }
    else { shown with text := shown.text ++ spelled o c, lineEnds := none }

end Shown

/-- Show files one behind the other. -/
def showFiles : Tool := fun c =>
  c.withOptions 1 "AbeEnstTuv"
      [("show-all", 'A', .never), ("number-nonblank", 'b', .never), ("show-ends", 'E', .never),
        ("number", 'n', .never), ("squeeze-blank", 's', .never), ("show-tabs", 'T', .never),
        ("show-nonprinting", 'v', .never)] fun o => do
    let has (letters : List Char) : Bool := letters.any o.has
    let showing : Showing :=
      { numbers := has ['n', 'b'], skipsEmpty := o.has 'b', squeezes := o.has 's',
        marksEnds := has ['E', 'e', 'A'], spellsTabs := has ['T', 't', 'A'],
        spellsOthers := has ['v', 'e', 't', 'A'] }
    let isPlain := !has ['A', 'b', 'e', 'E', 'n', 's', 't', 'T', 'v']
    let mut shown : Shown := ⟨"", 0, some 0, false⟩
    let mut fine := true
    for path in o.files do
      -- A file that is written at its own end would never come to an end.
      let s ← get
      let writesTo? := match s.stream? 1 with
        | some (.file address _ _ true _) => some address
        | _ => none
      let readsFrom? :=
        if path = "-" then
          match s.stream? 0 with
          | some (.file address _ _ _ _) => some address
          | _ => none
        else (s.locate path).toOption
      let isOwn := writesTo?.isSome && writesTo? == readsFrom? &&
        ((s.content path).toOption.getD []) != []
      if isOwn then
        fine := false
        c.say (shownName path ++ ": input file is output file")
      else
        match ← contentOf path with
        | .error fault =>
          fine := false
          c.sayFault path fault
        | .ok content =>
          if isPlain then write 1 content
          else
            shown := content.toList.foldl (Shown.add showing) shown
            write 1 shown.text
            shown := { shown with text := "" }
    if shown.heldReturn then write 1 "\r"
    if o.files.contains "-" && ((← get).stream? 0).isNone then
      c.say "closing standard input: Bad file descriptor"
      fine := false
    return statusOf fine

/-- Show the lines of files in the opposite order. -/
def showBackwards : Tool := fun c =>
  c.withOptions 1 "brs:"
      [("before", 'b', .never), ("regex", 'r', .never), ("separator", 's', .always)] fun o => do
    let lineEnd := (((o.value? 's').getD "\n").toList.head?).getD '\n'
    let mut shown := ""
    let mut fine := true
    for path in o.files do
      match ← contentOf path with
      | .ok content =>
        let lines := (splitLines lineEnd content.toList).reverse
        shown := shown ++ String.join (lines.map String.ofList)
      | .error fault =>
        fine := false
        c.say (match fault with
          | .directory => shownName path ++ ": read error: " ++ fault.reason
          | _ => "failed to open " ++ quotedName path ++ " for reading: " ++ fault.reason)
    write 1 shown
    return statusOf fine

/-- Show files with the characters of each line in the opposite order. -/
def showMirrored : Tool := fun c =>
  c.withOptions 1 "" [] fun o => do
    let mut shown := ""
    let mut fine := true
    for path in o.files do
      match ← contentOf path with
      | .ok content =>
        let lines := splitLines '\n' content.toList
        shown := shown ++ String.join (lines.map fun line =>
          let inner := unended '\n' line
          String.ofList (inner.reverse ++ line.drop inner.length))
      | .error fault =>
        fine := false
        c.say (match fault with
          | .directory => path ++ ": " ++ fault.reason
          | _ => "cannot open " ++ path ++ ": " ++ fault.reason)
    write 1 shown
    return statusOf fine

/-! ### Beginnings and ends -/

/-- The part of a file that is shown. -/
structure Extent where
  /-- Whether bytes are counted and not lines. -/
  countsBytes : Bool
  /-- The sign in front of the number. -/
  sign : Option Char
  /-- The number of lines or bytes. -/
  count : Nat

/-- The extent that an option asks for, if its number can be read. -/
def Extent.ofOption (letter : Char) (text : ByteText) : Option Extent :=
  let (sign, digits) := match text.toList with
    | '-' :: rest => (some '-', rest)
    | '+' :: rest => (some '+', rest)
    | chars => (none, chars)
  (sizeOf? (String.ofList digits)).map fun n => ⟨letter == 'c', sign, n⟩

/-- The beginning of a text whose lines end with a given character. -/
def Extent.start (e : Extent) (mark : Char) (text : List Char) : List Char :=
  if e.countsBytes then
    text.take (if e.sign = some '-' then text.length - e.count else e.count)
  else
    let lines := splitLines mark text
    (lines.take (if e.sign = some '-' then lines.length - e.count else e.count)).flatten

/-- The end of a text whose lines end with a given character. -/
def Extent.stop (e : Extent) (mark : Char) (text : List Char) : List Char :=
  if e.countsBytes then
    text.drop (if e.sign = some '+' then e.count - 1 else text.length - e.count)
  else
    let lines := splitLines mark text
    (lines.drop (if e.sign = some '+' then e.count - 1 else lines.length - e.count)).flatten

/-- Show a part of each of several files, with their names if that is wanted. What is behind the
part may be left for other readers of the input. -/
def showParts (c : Call) (o : FoundOptions) (leavesRest : Bool)
    (part : Extent → Char → List Char → List Char) : Run Nat := do
  let letter? := o.last? ['n', 'c']
  let letter := letter?.getD 'n'
  let text := (letter?.bind o.value?).getD "10"
  match Extent.ofOption letter text with
  | none =>
    let kind := if letter = 'c' then "bytes" else "lines"
    let shown := match text.toList with
      | '-' :: rest => String.ofList rest
      | _ => text
    c.fail 1 ("invalid number of " ++ kind ++ ": " ++ quotedName shown)
  | some extent =>
    let verbose := match o.last? ['q', 'v'] with
      | some 'v' => true
      | some _ => false
      | none => 1 < o.files.length
    let mut fine := true
    let mut isFirst := true
    for path in o.files do
      let name := if path = "-" then "standard input" else path
      let header := if verbose then (if isFirst then "" else "\n") ++ "==> " ++ name ++ " <==\n"
        else ""
      match ← contentOf path with
      | .ok content =>
        let mark := if o.has 'z' then '\x00' else '\n'
        let shown := part extent mark content.toList
        if leavesRest && path = "-" then giveBack 0 (content.length - shown.length)
        write 1 (header ++ String.ofList shown)
        isFirst := false
      | .error fault =>
        fine := false
        match fault with
        | .directory =>
          write 1 header
          isFirst := false
          c.say ("error reading " ++ quotedName name ++ ": " ++ fault.reason)
        | _ => c.say ("cannot open " ++ quotedName name ++ " for reading: " ++ fault.reason)
    return statusOf fine

/-- Show the beginnings of files. -/
def showStart : Tool := fun c =>
  c.withNumbers 'n' 1 "c:n:qvz"
    [("bytes", 'c', .always), ("lines", 'n', .always), ("quiet", 'q', .never),
      ("silent", 'q', .never), ("verbose", 'v', .never), ("zero-terminated", 'z', .never)] fun o =>
    showParts c o true Extent.start

/-- Show the ends of files. -/
def showEnd : Tool := fun c =>
  c.withNumbers 'n' 1 "c:n:qvzfFs:"
    [("bytes", 'c', .always), ("lines", 'n', .always), ("quiet", 'q', .never),
      ("silent", 'q', .never), ("verbose", 'v', .never), ("follow", 'f', .perhaps),
      ("zero-terminated", 'z', .never)] fun o =>
    showParts c o false Extent.stop

/-! ### Counting -/

/-- How much there is in a text. -/
structure Contents where
  /-- The number of line ends. -/
  lines : Nat
  /-- The number of words. -/
  words : Nat
  /-- The number of bytes. -/
  bytes : Nat
  /-- The length of the longest line. -/
  longest : Nat

namespace Contents

/-- Count what is in a text. -/
def ofText (text : ByteText) : Contents :=
  let chars := text.toList
  let isGap (c : Char) : Bool := c == ' ' || ('\t' ≤ c && c ≤ '\r')
  -- Only characters that can be printed make a word.
  let (words, _) := chars.foldl (fun (state : Nat × Bool) c =>
    if isGap c then (state.1, false)
    else if state.2 || !isPrintable c then state
    else (state.1 + 1, true)) (0, false)
  let (longest, last) := chars.foldl (fun (state : Nat × Nat) c =>
    let (longest, here) := state
    if c = '\n' ∨ c = '\r' ∨ c = '\x0c' then (max longest here, 0)
    else if c = '\t' then (longest, here + 8 - here % 8)
    else if isPrintable c then (longest, here + 1)
    else state) (0, 0)
  ⟨chars.count '\n', words, chars.length, max longest last⟩

/-- Add what is in another text. -/
def add (a b : Contents) : Contents :=
  ⟨a.lines + b.lines, a.words + b.words, a.bytes + b.bytes, max a.longest b.longest⟩

end Contents

/-- Count lines, words and bytes of files. -/
def countContents : Tool := fun c =>
  c.withOptions 1 "clmwL"
      [("bytes", 'c', .never), ("chars", 'm', .never), ("lines", 'l', .never),
        ("words", 'w', .never), ("max-line-length", 'L', .never)] fun o => do
    let wanted := if o.options.isEmpty then ['l', 'w', 'c'] else o.options.map (·.1)
    let numbers (n : Contents) : List Nat :=
      [('l', n.lines), ('w', n.words), ('m', n.bytes), ('c', n.bytes), ('L', n.longest)].filterMap
        fun known => if wanted.contains known.1 then some known.2 else none
    let s ← get
    let size? (path : ByteText) : Option (Option Nat) :=
      if path = "-" then
        match s.stream? 0 with
        | some (.file address _ _ _ _) =>
          match s.disk.node? address with
          | some (.file f) => some (some f.content.length)
          | _ => some none
        | _ => some none
      else
        match s.node? path with
        | some (.file f) => some (some f.content.length)
        | some _ => some none
        | none => none
    let sizes := o.files.filterMap size?
    let total := Number.total (sizes.filterMap id)
    let width :=
      if o.files.length = 1 ∧ (numbers ⟨0, 0, 0, 0⟩).length = 1 then 1
      else max (Nat.repr total).length (if sizes.any Option.isNone then 7 else 1)
    let line (n : Contents) (name : ByteText) : ByteText :=
      let columns := (numbers n).map fun n =>
        "".pushn ' ' (width - (Nat.repr n).length) ++ Nat.repr n
      " ".intercalate columns ++ (if name.isEmpty then "" else " " ++ name) ++ "\n"
    let mut all : Contents := ⟨0, 0, 0, 0⟩
    let mut fine := true
    for path in o.files do
      let name := if o.operands.isEmpty then "" else path
      match ← contentOf path with
      | .ok content =>
        let n := Contents.ofText content
        all := all.add n
        write 1 (line n name)
      | .error fault =>
        fine := false
        c.sayFault path fault
        if fault matches .directory then write 1 (line ⟨0, 0, 0, 0⟩ name)
    if 1 < o.files.length then write 1 (line all "total")
    return statusOf fine

/-! ### Numbers of lines -/

/-- Whether a line gets a number, as the style of numbering says. -/
def getsNumber (style : ByteText) (line : ByteText) : Bool :=
  match style.toList with
  | ['a'] => true
  | ['n'] => false
  | _ => !line.isEmpty

/-- A number in its column. -/
def numberColumn (form : ByteText) (width : Nat) (n : Int) : ByteText :=
  let digits := Int.repr n
  let gap := width - digits.length
  match form with
  | "ln" => digits.pushn ' ' gap
  | "rz" =>
    if n < 0 then "-" ++ "".pushn '0' gap ++ Nat.repr n.natAbs else "".pushn '0' gap ++ digits
  | _ => "".pushn ' ' gap ++ digits

/-- Show files with numbers in front of their lines. -/
def numberLines : Tool := fun c =>
  c.withOptions 1 "b:d:f:h:i:l:n:ps:v:w:"
      [("body-numbering", 'b', .always), ("line-increment", 'i', .always),
        ("number-format", 'n', .always), ("number-separator", 's', .always),
        ("starting-line-number", 'v', .always), ("number-width", 'w', .always)] fun o => do
    let number (letter : Char) (other : Int) : Int :=
      ((o.value? letter).bind String.toInt?).getD other
    let width := (number 'w' 6).toNat
    let separator := (o.value? 's').getD "\t"
    let form := (o.value? 'n').getD "rn"
    let first := number 'v' 1
    let bodyStyle := (o.value? 'b').getD "t"
    -- A line of signs starts a section, which has its own style and its own numbers.
    let section? (line : ByteText) : Option ByteText :=
      match line with
      | "\\:\\:\\:" => some ((o.value? 'h').getD "n")
      | "\\:\\:" => some bodyStyle
      | "\\:" => some ((o.value? 'f').getD "n")
      | _ => none
    let step (state : Int × ByteText × ByteText) (line : ByteText) : Int × ByteText × ByteText :=
      let (n, style, text) := state
      match section? line with
      | some style => (if o.has 'p' then n else first, style, text ++ "\n")
      | none =>
        if getsNumber style line then
          (n + number 'i' 1, style,
            text ++ numberColumn form width n ++ separator ++ line ++ "\n")
        else (n, style, text ++ "".pushn ' ' (width + separator.length) ++ line ++ "\n")
    let mut state := (first, bodyStyle)
    let mut fine := true
    for path in o.files do
      match ← contentOf path with
      | .ok content =>
        let (n, style, text) := (linesOf content).foldl step (state.1, state.2, "")
        write 1 text
        state := (n, style)
      | .error fault =>
        fine := false
        c.sayFault path fault
    return statusOf fine

/-! ### Copies of the input -/

/-- Write the input as output and into files. -/
def copyInput : Tool := fun c =>
  c.withOptions 1 "aip" [("append", 'a', .never), ("ignore-interrupts", 'i', .never)] fun o => do
    match ← contentOf "-" with
    | .error fault => c.fail 1 ("read error: " ++ fault.reason)
    | .ok content =>
      let mut fine := true
      for path in o.operands do
        match ← putContent path (o.has 'a') content with
        | .ok () => pure ()
        | .error fault =>
          fine := false
          c.sayFault path fault
      write 1 content
      return statusOf fine

end DesignAtlas.Shell.Tools
