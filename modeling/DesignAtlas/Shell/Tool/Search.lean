import DesignAtlas.Number.Total
import DesignAtlas.Regex.Reader
import DesignAtlas.Shell.Tool.Basic

/-!
# Searching lines

The tool that shows the lines of files that contain a match of one of several patterns.

* `LineMatcher` finds matches in a line.
* `searchLines` shows the lines.
-/

namespace DesignAtlas.Shell.Tools

/-- How the lines of files are searched. -/
structure LineMatcher where
  /-- The patterns. -/
  patterns : List Regex
  /-- Whether the case of letters does not count. -/
  ignoresCase : Bool
  /-- Whether a match has to be a word. -/
  wantsWord : Bool
  /-- Whether a match has to be the whole line. -/
  wantsLine : Bool

namespace LineMatcher

/-- The pattern that matches a text only. -/
def fixed (text : List Char) : Regex :=
  text.foldr (fun c r => .sequence (Regex.exactly c) r) .empty

/-- The subject that a line is. -/
def subject (m : LineMatcher) (line : List Char) : Regex.Subject :=
  ⟨line.toArray, m.ignoresCase, true, false⟩

/-- The end of the longest fitting match of a pattern at a place. -/
def endAt? (m : LineMatcher) (s : Regex.Subject) (place : Nat) (r : Regex) : Option Nat :=
  let fits (stop : Nat) : Bool :=
    (!m.wantsWord || (!s.isWordBefore place && !s.isWordAt stop)) &&
      (!m.wantsLine || (place == 0 && stop == s.text.size))
  ((Regex.endsAt s (r.fuelFor s) r place []).map (·.1)).find? fits

/-- The first match from a place on: where it starts and ends. -/
def next? (m : LineMatcher) (s : Regex.Subject) : (fuel : Nat) → (place : Nat) →
    Option (Nat × Nat)
  | 0, _ => none
  | fuel + 1, place =>
    let stops := m.patterns.filterMap (m.endAt? s place)
    match stops with
    | stop :: others => some (place, others.foldl max stop)
    | [] => if place < s.text.size then m.next? s fuel (place + 1) else none

/-- Whether a line contains a match. -/
def holds (m : LineMatcher) (line : List Char) : Bool :=
  (m.next? (m.subject line) (line.length + 1) 0).isSome

/-- The matches of a line that are not empty, with their places. -/
def all (m : LineMatcher) (s : Regex.Subject) : (fuel : Nat) → (place : Nat) →
    List (Nat × List Char)
  | 0, _ => []
  | fuel + 1, place =>
    match m.next? s (s.text.size + 1) place with
    | none => []
    | some (first, last) =>
      if first = last then
        if first < s.text.size then m.all s fuel (first + 1) else []
      else (first, (s.text.extract first last).toList) :: m.all s fuel last

end LineMatcher

/-- How lines that were found are shown. -/
structure LineShowing where
  /-- Whether the name of the file is shown. -/
  names : Bool
  /-- Whether the number of the line is shown. -/
  numbers : Bool
  /-- Whether the place in the file is shown. -/
  offsets : Bool
  /-- Whether only matches are shown. -/
  onlyMatches : Bool
  /-- Whether a tab follows what is shown first. -/
  aligns : Bool
  /-- The number of lines that are shown before a line that was found. -/
  before : Nat
  /-- The number of lines that are shown behind a line that was found. -/
  after : Nat

namespace LineShowing

/-- What is shown in front of a line. -/
def head (o : LineShowing) (name : ByteText) (sign : ByteText) (number offset : Nat) : ByteText :=
  let parts := (if o.names then name ++ sign else "") ++
    (if o.numbers then Nat.repr number ++ sign else "") ++
    (if o.offsets then Nat.repr offset ++ sign else "")
  if o.aligns && parts != "" then parts ++ "\t" else parts

end LineShowing

/-- A line of a file with its number and its place. -/
structure PlacedLine where
  /-- The number. -/
  number : Nat
  /-- The place. -/
  offset : Nat
  /-- The characters. -/
  text : List Char
  /-- Whether it was found. -/
  isFound : Bool

/-- The lines of a text, and whether they were found. No more than a number of them are found. -/
def placedLines (lineEnd : Char) (isWanted : List Char → Bool) (limit : Option Nat)
    (text : List Char) : List PlacedLine :=
  let step (state : List PlacedLine × Nat × Nat × Nat) (line : List Char) :
      List PlacedLine × Nat × Nat × Nat :=
    let (found, number, offset, count) := state
    let inner := unended lineEnd line
    let isFound := limit.all (count < ·) && isWanted inner
    (⟨number, offset, inner, isFound⟩ :: found, number + 1, offset + line.length,
      if isFound then count + 1 else count)
  ((splitLines lineEnd text).foldl step ([], 1, 0, 0)).1.reverse

/-- The text of the lines that were found, with the lines around them. -/
def shownLines (o : LineShowing) (m : LineMatcher) (inverted : Bool) (lineEnd : Char)
    (name : ByteText) (limit : Option Nat) (lines : List PlacedLine) : ByteText :=
  let places := lines.filter (·.isFound) |>.map (·.number)
  let lastFound := places.getLast?.getD 0
  let isFull := limit.any (places.length ≥ ·)
  let isShown (l : PlacedLine) : Bool :=
    l.isFound || places.any fun n =>
      (decide (l.number < n) && decide (n ≤ l.number + o.before)) ||
      (decide (n < l.number) && decide (l.number ≤ n + o.after))
  let hasContext := o.before != 0 || o.after != 0
  let shown := if hasContext then lines.filter isShown else lines.filter (·.isFound)
  -- Behind the last line that is looked for, lines that would be found end the context.
  let step (state : ByteText × Nat) (l : PlacedLine) : ByteText × Nat :=
    let (text, last) := state
    let isOver := isFull && decide (lastFound < l.number) && m.holds l.text != inverted
    if isOver then state
    else
      let gap := if hasContext && last != 0 && last + 1 != l.number then "--\n" else ""
      let body :=
        if o.onlyMatches then
          if l.isFound && !inverted then
            let s := m.subject l.text
            String.join ((m.all s (l.text.length + 2) 0).map fun part =>
              o.head name ":" l.number (l.offset + part.1) ++ String.ofList part.2 ++
                lineEnd.toString)
          else ""
        else
          o.head name (if l.isFound then ":" else "-") l.number l.offset ++
            String.ofList l.text ++ lineEnd.toString
      (text ++ gap ++ body, l.number)
  (shown.foldl step ("", 0)).1

/-- The warnings about patterns that start with a repetition. -/
def startWarning? (isExtended : Bool) (pattern : List Char) : Option ByteText :=
  match isExtended, pattern with
  | true, '*' :: _ => some "warning: * at start of expression"
  | true, '+' :: _ => some "warning: + at start of expression"
  | true, '?' :: _ => some "warning: ? at start of expression"
  | _, _ => none

/-- The files below a directory, with paths that start with its own. -/
def filesBelow (s : Session) : (fuel : Nat) → (path : ByteText) → List ByteText
  | 0, _ => []
  | fuel + 1, path =>
    match s.locate path with
    | .error _ => []
    | .ok address =>
      let names := ((s.disk.inside address).map (ByteText.ofText ·.1)).mergeSort
        fun a b => decide (a ≤ b)
      names.flatMap fun name =>
        let inner := pathIn path name
        match s.entryAt inner with
        | some (.directory _) => filesBelow s fuel inner
        | some (.file _) => [inner]
        | _ => []

/-- Show the lines of files that contain a match. -/
def searchLines (defaultStyle : Option Regex.Style) : Tool := fun c =>
  let letters := "A:B:C:EFGHILPRTUVZabcd:e:f:hilm:noqrsuvwxyz"
  let names : List (String × Char × TakesArgument) :=
    [("after-context", 'A', .always), ("before-context", 'B', .always), ("context", 'C', .always),
      ("extended-regexp", 'E', .never), ("fixed-strings", 'F', .never),
      ("basic-regexp", 'G', .never), ("with-filename", 'H', .never),
      ("files-without-match", 'L', .never), ("recursive", 'r', .never),
      ("dereference-recursive", 'R', .never), ("initial-tab", 'T', .never), ("null", 'Z', .never),
      ("text", 'a', .never), ("byte-offset", 'b', .never), ("count", 'c', .never),
      ("regexp", 'e', .always), ("file", 'f', .always), ("no-filename", 'h', .never),
      ("ignore-case", 'i', .never), ("no-ignore-case", '1', .never),
      ("files-with-matches", 'l', .never), ("max-count", 'm', .always),
      ("line-number", 'n', .never), ("only-matching", 'o', .never), ("quiet", 'q', .never),
      ("silent", 'q', .never), ("no-messages", 's', .never), ("invert-match", 'v', .never),
      ("word-regexp", 'w', .never), ("line-regexp", 'x', .never), ("null-data", 'z', .never),
      ("label", '2', .always), ("include", '3', .always), ("exclude", '4', .always),
      ("color", '5', .perhaps), ("colour", '5', .perhaps), ("line-buffered", '6', .never)]
  let usage : Run Nat := do
    write 2 ("Usage: " ++ c.name ++ " [OPTION]... PATTERNS [FILE]...\n")
    c.pointToHelp 2
  let spelled (a : ByteText) : ByteText :=
    match a.toList with
    | '-' :: rest =>
      if !rest.isEmpty && rest.all Char.isDigit then "-C" ++ String.ofList rest else a
    | _ => a
  let arguments := c.arguments.map spelled
  let fuel := Number.total (arguments.map (·.length + 1)) + 1
  match (KnownOptions.mk letters names).read false fuel arguments with
  | .error message => do
    c.say message
    usage
  | .ok o => do
    let context (letter : Char) : Except ByteText Nat :=
      match (o.value? letter).or (o.value? 'C') with
      | none => .ok 0
      | some text =>
        match (natural? text).filter fun _ => !text.isEmpty with
        | some n => .ok n
        | none => .error (text ++ ": invalid context length argument")
    let style? : Option Regex.Style :=
      match o.last? ['E', 'F', 'G', 'P'] with
      | some 'E' => some .lenient
      | some 'P' => some .lenient
      | some 'F' => none
      | some _ => some .basic
      | none => defaultStyle
    let limit? : Except ByteText (Option Nat) :=
      match o.value? 'm' with
      | none => .ok none
      | some text =>
        match natural? text with
        | some n => if text.isEmpty then .error "invalid max count" else .ok (some n)
        | none => .error "invalid max count"
    let given := o.values 'e'
    let fromFiles := o.values 'f'
    let mut patterns := given
    for path in fromFiles do
      match ← contentOf path with
      | .ok content => patterns := patterns ++ linesOf content
      | .error fault => return ← c.fail 2 (path ++ ": " ++ fault.reason)
    let isGiven := !given.isEmpty || !fromFiles.isEmpty
    if !isGiven && o.operands.isEmpty then return ← usage
    let texts := if isGiven then patterns else o.operands.take 1
    let operands := if isGiven then o.operands else o.operands.drop 1
    let texts := if isGiven && given.isEmpty then texts
      else texts.flatMap fun text => text.splitOn "\n"
    match context 'B', context 'A', limit? with
    | .error message, _, _ => c.fail 2 message
    | _, .error message, _ => c.fail 2 message
    | _, _, .error message => c.fail 2 message
    | .ok before, .ok after, .ok limit =>
      let regexes : Except Regex.ReadFault (List Regex) :=
        match style? with
        | none => .ok (texts.map fun t => LineMatcher.fixed t.toList)
        | some style => texts.mapM fun t => Regex.ofText style t.toList
      let isLenient := style? == some .lenient
      for t in texts do
        match startWarning? isLenient t.toList with
        | some warning => c.say warning
        | none => pure ()
        if style?.isSome && t.startsWith "[:" && t.endsWith ":]" then
          return ← c.fail 2 "character class syntax is [[:space:]], not [:space:]"
      match regexes with
      | .error fault =>
        let isLone := texts == ["["]
        c.fail 2 (if isLone then "Invalid regular expression" else fault.message)
      | .ok regexes =>
        let isRecursive := o.has 'r' || o.has 'R'
        let m : LineMatcher := ⟨regexes, o.has 'i' || o.has 'y', o.has 'w', o.has 'x'⟩
        let s ← get
        let files :=
          if !operands.isEmpty then operands else if isRecursive then ["."] else ["-"]
        let included (path : ByteText) : Bool :=
          let name := ((path.splitOn "/").getLast?).getD ""
          let matchesOne (globs : List ByteText) : Bool := globs.any fun glob =>
            (Pattern.ofChars .plain (glob.toList.map fun c => ⟨c, false⟩)).matchesText name.toList
          (o.values '3' |>.isEmpty) || matchesOne (o.values '3')
        let excluded (path : ByteText) : Bool :=
          let name := ((path.splitOn "/").getLast?).getD ""
          (o.values '4').any fun glob =>
            (Pattern.ofChars .plain (glob.toList.map fun c => ⟨c, false⟩)).matchesText name.toList
        let files := files.flatMap fun path =>
          if isRecursive && path != "-" && s.isDirectory path then
            let below := filesBelow s Disk.maxNameLength path
            let below := if operands.isEmpty then below.map fun p => String.ofList (p.toList.drop 2)
              else below
            below.filter fun p => included p && !excluded p
          else [path]
        let showsNames := match o.last? ['H', 'h'] with
          | some 'H' => true
          | some _ => false
          | none =>
            1 < operands.length || (isRecursive &&
              (operands.isEmpty || operands.any s.isDirectory))
        let lineEnd := if o.has 'z' then '\x00' else '\n'
        let showing : LineShowing :=
          { names := showsNames, numbers := o.has 'n', offsets := o.has 'b',
            onlyMatches := o.has 'o', aligns := o.has 'T', before := before, after := after }
        let mut anyFound := false
        let mut fine := true
        for path in files do
          if o.has 'q' && anyFound then break
          let name := if path = "-" then (o.value? '2').getD "(standard input)" else path
          match ← contentOf path with
          | .error fault =>
            fine := false
            if !o.has 's' then c.say (path ++ ": " ++ fault.reason)
          | .ok content =>
            let text := content.toList
            let limit := if o.has 'q' || o.has 'l' || o.has 'L' then
              (if limit == some 0 then some 0 else some 1) else limit
            let lines := placedLines lineEnd (fun line => m.holds line != o.has 'v') limit text
            let count := (lines.filter (·.isFound)).length
            let isFound := count != 0
            anyFound := anyFound || isFound
            -- What is behind the last line that is looked for is left to other readers.
            if path = "-" && !(['q', 'l', 'L'].any o.has) && limit == some count then
              let used := match (lines.filter (·.isFound)).getLast? with
                | some line => line.offset + line.text.length + 1
                | none => 0
              giveBack 0 (text.length - used)
            let nameEnd := if o.has 'Z' then "\x00" else "\n"
            let isBinary := text.contains '\x00' && !o.has 'a' && !o.has 'z'
            let isListing := ['q', 'l', 'L', 'c'].any o.has
            if isBinary && isFound && !isListing then c.say (name ++ ": binary file matches")
            let listed (wanted : Bool) : ByteText := if wanted then name ++ nameEnd else ""
            write 1 <|
              if o.has 'q' then ""
              else if o.has 'l' then listed isFound
              else if o.has 'L' then listed !isFound
              else if o.has 'c' then
                let head := if showsNames then name ++ (if o.has 'Z' then "\x00" else ":") else ""
                head ++ Nat.repr count ++ "\n"
              else if isBinary then ""
              else shownLines showing m (o.has 'v') lineEnd name limit lines
        if anyFound && (fine || o.has 'q') then return 0
        else return if fine then 1 else 2

end DesignAtlas.Shell.Tools
