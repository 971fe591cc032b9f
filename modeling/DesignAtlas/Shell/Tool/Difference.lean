import DesignAtlas.Regex.Reader
import DesignAtlas.Shell.Pattern
import DesignAtlas.Shell.Tool.Alteration
import DesignAtlas.Shell.Tool.Calendar
import DesignAtlas.Shell.Tool.Columns
import DesignAtlas.Shell.Tool.Compare
import DesignAtlas.Shell.Tool.Place

/-!
# Differences of files

Two files are compared line by line, and what has to be changed in the first one to get the second
one is shown in one of several styles. Directories are compared entry by entry.

* `Comparison.changes` are the changes between two files.
* `Comparison.shown` shows them.
* `showChanges` is the tool.
-/

namespace DesignAtlas.Shell.Tools

open Text

/-- How changes are shown. -/
inductive ChangeStyle where
  /-- The lines of each change, the old ones before the new ones. -/
  | plain
  /-- Old and new lines among so many lines around them. -/
  | unified (around : Nat)
  /-- Old lines among so many lines around them, and then the new ones in the same way. -/
  | context (around : Nat)
  /-- Commands for an editor, from the last change to the first one. -/
  | script
  /-- Old and new lines side by side. -/
  | columns (layout : Columns)
  deriving DecidableEq, Repr

namespace ChangeStyle

/-- The number of lines around changes. -/
def around : ChangeStyle → Nat
  | plain => 0
  | unified n => n
  | context n => n
  | script => 0
  | columns _ => 0

end ChangeStyle

/-- Which differences between blanks do not count. -/
inductive BlankRule where
  /-- All of them count. -/
  | strict
  /-- Blanks at the ends of lines do not matter. -/
  | trailing
  /-- The number of blanks does not matter. -/
  | amount
  /-- No blank matters. -/
  | all
  deriving DecidableEq, Repr

/-- How files are compared. -/
structure Comparison where
  /-- How changes are shown. -/
  style : ChangeStyle
  /-- Which blanks count. -/
  blanks : BlankRule
  /-- Whether upper and lower case are the same. -/
  ignoresCase : Bool
  /-- Whether empty lines that come or go do not count. -/
  ignoresEmptyLines : Bool
  /-- The forms of lines that do not count when they come or go. -/
  ignoredLines : List Regex
  /-- The forms of names in directories that are passed over. -/
  passedOver : List Pattern
  /-- Whether a carriage return in front of the end of a line does not count. -/
  dropsReturns : Bool
  /-- Whether files that differ are only named. -/
  isBrief : Bool
  /-- Whether files that are the same are named as well. -/
  namesSame : Bool
  /-- Whether all files are taken for text. -/
  asText : Bool
  /-- Whether directories inside directories are compared. -/
  descends : Bool
  /-- Whether a missing file is taken for an empty one. -/
  fillsMissing : Bool
  /-- Whether tabs are put in front of lines. -/
  startsWithTab : Bool
  /-- The names that are shown in place of the files. -/
  labels : List ByteText
  /-- The options as they were written. -/
  written : ByteText

namespace Comparison

/-! ### Lines that are the same -/

/-- A line as it is compared. -/
def key (k : Comparison) (line : List Char) : List Char :=
  let isSpace (c : Char) : Bool := c == ' ' || ('\t' ≤ c && c ≤ '\r')
  let trimmed (line : List Char) : List Char := (line.reverse.dropWhile isSpace).reverse
  let line := if k.ignoresCase then line.map Char.toLower else line
  match k.blanks with
  | .strict => line
  | .trailing => trimmed line
  | .amount =>
    ((trimmed line).splitBy fun a b => isSpace a && isSpace b).flatMap fun group =>
      if group.head?.any isSpace then [' '] else group
  | .all => line.filter fun c => !isSpace c

/-- The number of items that two lists have in common at their start. -/
def shared {α : Type} [BEq α] (a b : List α) : Nat :=
  ((a.zip b).takeWhile fun p => p.1 == p.2).length

/-- Numbers for the lines of two files. Lines that are the same have the same number. -/
def numbered (keys : List (List Char)) : Array Nat :=
  (keys.foldl (fun (state : List (List Char) × Array Nat) key =>
    match state.1.idxOf? key with
    | some i => (state.1, state.2.push (state.1.length - 1 - i))
    | none => (key :: state.1, state.2.push state.1.length)) ([], #[])).2

/-- Whether the last line of a file has an end. -/
def isEnded (lines : List (List Char)) : Bool :=
  (lines.getLast?.map (·.getLast? == some '\n')).getD true

/-- The changes between the lines of two files. -/
def changes (k : Comparison) (a b : List (List Char)) : List Change :=
  let start := shared a b - k.style.around
  let restA := a.drop start
  let restB := b.drop start
  -- Only files that end in the same way have an end in common.
  let behind :=
    if isEnded a == isEnded b then shared restA.reverse restB.reverse - k.style.around else 0
  let keysA := (restA.take (restA.length - behind)).map k.key
  let keysB := (restB.take (restB.length - behind)).map k.key
  let numbers := numbered (keysA ++ keysB)
  let found := alteredItems (numbers.extract 0 keysA.length)
    (numbers.extract keysA.length numbers.size)
  (changesOf found).map fun c => { c with first := c.first + start, second := c.second + start }

/-- Whether a line does not count when it comes or goes. -/
def isIdleLine (k : Comparison) (line : List Char) : Bool :=
  let line := unended '\n' line
  let isEmpty :=
    if k.blanks = .strict then line.isEmpty
    else line.all fun c => c == ' ' || ('\t' ≤ c && c ≤ '\r')
  (k.ignoresEmptyLines && isEmpty) ||
    k.ignoredLines.any fun r => (r.search ⟨line.toArray, false, true, false⟩ 0).isSome

/-- Whether a change is only about lines that do not count. -/
def isIdle (k : Comparison) (a b : Array (List Char)) (c : Change) : Bool :=
  (a.extract c.first (c.first + c.removed)).all k.isIdleLine &&
    (b.extract c.second (c.second + c.added)).all k.isIdleLine

/-! ### Showing changes -/

/-- A line behind a mark. A line that is not ended gets a note. -/
def shownLine (mark : ByteText) (line : List Char) : ByteText :=
  let note := if line.getLast? = some '\n' then "" else "\n\\ No newline at end of file\n"
  mark ++ String.ofList line ++ note

/-- Some lines, each behind a mark. -/
def shownLines (mark : ByteText) (lines : Array (List Char)) (start count : Nat) : ByteText :=
  String.join ((lines.extract start (start + count)).toList.map (shownLine mark))

/-- A range of lines by the numbers of the first and the last one. -/
def rangeText (start count : Nat) : ByteText :=
  if count ≤ 1 then Nat.repr (start + count)
  else Nat.repr (start + 1) ++ "," ++ Nat.repr (start + count)

/-- A change by itself. -/
def shownAlone (k : Comparison) (a b : Array (List Char)) (c : Change) : ByteText :=
  let letter := if c.removed = 0 then "a" else if c.added = 0 then "d" else "c"
  let gap := if k.startsWithTab then "\t" else " "
  rangeText c.first c.removed ++ letter ++ rangeText c.second c.added ++ "\n" ++
    shownLines ("<" ++ gap) a c.first c.removed ++
    (if c.removed ≠ 0 ∧ c.added ≠ 0 then "---\n" else "") ++
    shownLines (">" ++ gap) b c.second c.added

/-- Changes that are shown together, for few lines stand between them. -/
def grouped (k : Comparison) (a b : Array (List Char)) (changes : List Change) :
    List (List Change) :=
  let around := k.style.around
  changes.splitBy fun c d =>
    let limit := if k.isIdle a b c || k.isIdle a b d then around else 2 * around + 1
    d.first - (c.first + c.removed) < limit

/-- The lines that a group of changes is shown with: the start and the number in both files. -/
def extent (around : Nat) (a b : Array (List Char)) (group : List Change) :
    (Nat × Nat) × (Nat × Nat) :=
  match group.head?, group.getLast? with
  | some first, some last =>
    let startA := first.first - around
    let startB := first.second - around
    let stopA := min a.size (last.first + last.removed + around)
    let stopB := min b.size (last.second + last.added + around)
    ((startA, stopA - startA), (startB, stopB - startB))
  | _, _ => ((0, 0), (0, 0))

/-- A group of changes with old and new lines among others. -/
def shownUnified (k : Comparison) (a b : Array (List Char)) (around : Nat)
    (group : List Change) : ByteText :=
  let ((startA, countA), (startB, countB)) := extent around a b group
  let range (start count : Nat) : ByteText :=
    if count = 1 then Nat.repr (start + 1)
    else if count = 0 then Nat.repr start ++ ",0"
    else Nat.repr (start + 1) ++ "," ++ Nat.repr count
  let gap := if k.startsWithTab then "\t" else ""
  let same := if k.startsWithTab then "\t" else " "
  let (text, place) := group.foldl (fun (state : ByteText × Nat) c =>
    (state.1 ++ shownLines same a state.2 (c.first - state.2) ++
      shownLines ("-" ++ gap) a c.first c.removed ++ shownLines ("+" ++ gap) b c.second c.added,
      c.first + c.removed)) ("", startA)
  "@@ -" ++ range startA countA ++ " +" ++ range startB countB ++ " @@\n" ++ text ++
    shownLines same a place (startA + countA - place)

/-- A group of changes with old lines among others before new lines among others. -/
def shownInContext (k : Comparison) (a b : Array (List Char)) (around : Nat)
    (group : List Change) : ByteText :=
  let ((startA, countA), (startB, countB)) := extent around a b group
  let gap := if k.startsWithTab then "\t" else " "
  let side (lines : Array (List Char)) (mark : ByteText) (start count : Nat)
      (part : Change → Nat × Nat × Nat) : ByteText :=
    let (text, place) := group.foldl (fun (state : ByteText × Nat) c =>
      let (first, own, other) := part c
      let mark := if own ≠ 0 ∧ other ≠ 0 then "!" else mark
      (state.1 ++ shownLines (" " ++ gap) lines state.2 (first - state.2) ++
        shownLines (mark ++ gap) lines first own, first + own)) ("", start)
    text ++ shownLines (" " ++ gap) lines place (start + count - place)
  let old :=
    if group.any (·.removed != 0) then
      side a "-" startA countA fun c => (c.first, c.removed, c.added)
    else ""
  let new :=
    if group.any (·.added != 0) then
      side b "+" startB countB fun c => (c.second, c.added, c.removed)
    else ""
  "***************\n*** " ++ rangeText startA countA ++ " ****\n" ++ old ++
    "--- " ++ rangeText startB countB ++ " ----\n" ++ new

/-- A change as a command for an editor. A line with a point alone would end the text. -/
def shownCommand (b : Array (List Char)) (c : Change) : ByteText :=
  let letter := if c.removed = 0 then "a" else if c.added = 0 then "d" else "c"
  let lines := (b.extract c.second (c.second + c.added)).toList.map (unended '\n')
  let (text, isOpen) := lines.foldl (fun (state : ByteText × Bool) line =>
    let text := if state.2 then state.1 else state.1 ++ "a\n"
    if line = ['.'] then (text ++ "..\n.\ns/.//\n", false)
    else (text ++ String.ofList line ++ "\n", true)) ("", true)
  rangeText c.first c.removed ++ letter ++ "\n" ++ text ++
    (if isOpen ∧ c.added ≠ 0 then ".\n" else "")

/-- All lines of two files side by side. -/
def shownBeside (l : Columns) (a b : Array (List Char))
    (changes : List Change) : List ByteText :=
  let same (i j count : Nat) : List ByteText :=
    if l.hidesSame then []
    else (List.range count).map fun n =>
      if l.onlyLeft then l.row (a[i + n]?) '(' none else l.row (a[i + n]?) ' ' (b[j + n]?)
  let (rows, i, j) := changes.foldl (fun (state : List ByteText × Nat × Nat) c =>
    let (rows, i, j) := state
    let both := min c.removed c.added
    let pairs := (List.range both).map fun n =>
      l.row (a[c.first + n]?) '|' (b[c.second + n]?)
    let new := (List.range (c.added - both)).map fun n =>
      l.row none '>' (b[c.second + both + n]?)
    let old := (List.range (c.removed - both)).map fun n =>
      l.row (a[c.first + both + n]?) '<' none
    (rows ++ same i j (c.first - i) ++ pairs ++ new ++ old, c.first + c.removed,
      c.second + c.added)) ([], 0, 0)
  rows ++ same i j (min (a.size - i) (b.size - j))

/-- The changes between two files as they are shown, without what stands in front of them. -/
def shown (k : Comparison) (a b : Array (List Char)) (changes : List Change) : List ByteText :=
  let isShown (group : List Change) : Bool := group.any fun c => !k.isIdle a b c
  let counted := changes.filter fun c => !k.isIdle a b c
  match k.style with
  | .plain => counted.map (k.shownAlone a b)
  | .script => counted.reverse.map (shownCommand b)
  | .columns layout => shownBeside layout a b counted
  | .unified around => ((k.grouped a b changes).filter isShown).map (k.shownUnified a b around)
  | .context around =>
    ((k.grouped a b changes).filter isShown).map (k.shownInContext a b around)

/-- The lines that name the files in front of the changes, with the moments when they were
changed. -/
def heading (k : Comparison) (s : Session) (first second : ByteText) : ByteText :=
  let moment (file : ByteText) : Moment :=
    if file = "-" then .ofNanos s.disk.clock
    else (s.node file).toOption.elim (.ofNanos 0) (momentOf s.disk.made)
  let name (format : ByteText) (i : Nat) (file : ByteText) : ByteText :=
    (k.labels[i]?).getD (file ++ "\t" ++ (moment file).inFormat format)
  match k.style with
  | .unified _ =>
    let format := "%Y-%m-%d %H:%M:%S.%N %z"
    "--- " ++ name format 0 first ++ "\n+++ " ++ name format 1 second ++ "\n"
  | .context _ =>
    let format := "%a %b %e %H:%M:%S %Y"
    "*** " ++ name format 0 first ++ "\n--- " ++ name format 1 second ++ "\n"
  | _ => ""

/-! ### Files and directories -/

/-- The lines of a content as they are compared. -/
def linesFor (k : Comparison) (text : ByteText) : List (List Char) :=
  let withoutReturn (line : List Char) : List Char :=
    match line.reverse with
    | '\n' :: '\r' :: rest => ('\n' :: rest).reverse
    | _ => line
  let lines := splitLines '\n' text.toList
  if k.dropsReturns then lines.map withoutReturn else lines

/-- Compare two contents and show the changes. Gives a status. -/
def compareContents (k : Comparison) (c : Call) (isInside : Bool) (first second : ByteText)
    (a b : ByteText) : Run Nat := do
  let label (i : Nat) (file : ByteText) : ByteText := (k.labels[i]?).getD file
  let same : Run Nat := do
    if k.namesSame then
      write 1 ("Files " ++ label 0 first ++ " and " ++ label 1 second ++ " are identical\n")
    return 0
  let isBeside := k.style matches .columns _
  if a == b && (!isBeside || k.isBrief) then return ← same
  let isBinary (text : ByteText) : Bool := text.toList.contains '\x00'
  if !k.asText && (isBinary a || isBinary b) then
    if a == b then return ← same
    let kind := if k.isBrief then "Files " else "Binary files "
    write 1 (kind ++ label 0 first ++ " and " ++ label 1 second ++ " differ\n")
    return 1
  let linesA := k.linesFor a
  let linesB := k.linesFor b
  let endedA := isEnded linesA
  let endedB := isEnded linesB
  -- Commands for an editor are about lines that are ended.
  let ended (lines : List (List Char)) : List (List Char) :=
    if k.style = .script then lines.map fun line => unended '\n' line ++ ['\n'] else lines
  let linesA := ended linesA
  let linesB := ended linesB
  let changes := k.changes linesA linesB
  let isChanged := changes.any fun c => !k.isIdle linesA.toArray linesB.toArray c
  if k.isBrief then
    if !isChanged then return ← same
    write 1 ("Files " ++ label 0 first ++ " and " ++ label 1 second ++ " differ\n")
    return 1
  let parts := k.shown linesA.toArray linesB.toArray changes
  if isInside && isChanged then
    write 1 ("diff" ++ k.written ++ " " ++ first ++ " " ++ second ++ "\n")
  if isChanged then write 1 (k.heading (← get) first second)
  write 1 (String.join parts)
  if k.style = .script && isChanged then
    for (path, isEnded) in [(first, endedA), (second, endedB)] do
      if !isEnded then c.say (path ++ ": No newline at end of file\n")
    if !(endedA && endedB) then return 2
  if !isChanged then return ← same
  return 1

/-- What kind of file a node is. -/
def kindText : DiskNode → ByteText
  | .file f => if f.content.isEmpty then "regular empty file" else "regular file"
  | .program _ => "regular file"
  | .directory _ => "directory"
  | .link _ => "symbolic link"
  | .device _ => "character special file"

/-- A file that can be compared, or an empty one in its place, or none. -/
def contentOrEmpty (path : Option ByteText) : Run (Except FileFault ByteText) :=
  match path with
  | none => return .ok ""
  | some path => contentOf path

/-- Compare the entries of two directories. Either one may be missing. Gives a status. -/
def compareDirectories (k : Comparison) (c : Call) :
    (depth : Nat) → (first second : ByteText) → (hasFirst hasSecond : Bool) → Run Nat
  | 0, _, _, _, _ => return 2
  | depth + 1, first, second, hasFirst, hasSecond => do
    let s ← get
    let isCompared (name : ByteText) : Bool :=
      !k.passedOver.any fun p => p.matchesText name.toList
    let names (path : ByteText) (isThere : Bool) : Except FileFault (List ByteText) :=
      if !isThere then .ok []
      else
        match s.locate path, s.node path with
        | .ok address, .ok (.directory mode) =>
          if mode.mayRead then .ok ((s.namesInside address).filter isCompared)
          else .error .denied
        | .error fault, _ => .error fault
        | _, _ => .error .notDirectory
    let mut status := 0
    let namesA := names first hasFirst
    let namesB := names second hasSecond
    for (path, found) in [(first, namesA), (second, namesB)] do
      match found with
      | .error fault =>
        c.say (path ++ ": " ++ fault.reason)
        status := 2
      | .ok _ => pure ()
    match namesA, namesB with
    | .ok namesA, .ok namesB =>
      let all :=
        (namesA ++ namesB.filter (!namesA.contains ·)).mergeSort fun a b => decide (a ≤ b)
      for name in all do
        let pathA := pathIn first name
        let pathB := pathIn second name
        let inA := namesA.contains name
        let inB := namesB.contains name
        if !(inA && inB) && !k.fillsMissing then
          write 1 ("Only in " ++ (if inA then first else second) ++ ": " ++ name ++ "\n")
          status := max status 1
        else
          let isDirectoryA := inA && s.isDirectory pathA
          let isDirectoryB := inB && s.isDirectory pathB
          if (isDirectoryA || !inA) && (isDirectoryB || !inB) then
            if k.descends then
              status := max status (← compareDirectories k c depth pathA pathB inA inB)
            else if inA && inB then
              write 1 ("Common subdirectories: " ++ pathA ++ " and " ++ pathB ++ "\n")
            else
              write 1 ("Only in " ++ (if inA then first else second) ++ ": " ++ name ++ "\n")
              status := max status 1
          else if isDirectoryA || isDirectoryB then
            let kind (path : ByteText) : ByteText := (s.node? path).elim "missing file" kindText
            if inA && inB then
              write 1 ("File " ++ pathA ++ " is a " ++ kind pathA ++ " while file " ++ pathB ++
                " is a " ++ kind pathB ++ "\n")
            status := max status 1
          else
            let contentA ← contentOrEmpty (if inA then some pathA else none)
            let contentB ← contentOrEmpty (if inB then some pathB else none)
            for (path, content) in [(pathA, contentA), (pathB, contentB)] do
              match content with
              | .error fault =>
                c.say (path ++ ": " ++ fault.reason)
                status := 2
              | .ok _ => pure ()
            match contentA, contentB with
            | .ok a, .ok b => status := max status (← k.compareContents c true pathA pathB a b)
            | _, _ => pure ()
      return status
    | _, _ => return status

/-- Compare two operands. Gives a status. -/
def compareOperands (k : Comparison) (c : Call) (first second : ByteText) : Run Nat := do
  let s ← get
  let isDirectoryA := first != "-" && s.isDirectory first
  let isDirectoryB := second != "-" && s.isDirectory second
  if isDirectoryA && isDirectoryB then
    if isSameFile s first second then return 0
    return ← k.compareDirectories c (Disk.maxPathLength + 1) first second true true
  if (isDirectoryA && second == "-") || (isDirectoryB && first == "-") then
    return ← c.fail 2 "cannot compare '-' to a directory"
  -- A file is compared with the one of its name in a directory.
  let first := if isDirectoryA then pathIn first (lastPart second) else first
  let second := if isDirectoryB then pathIn second (lastPart first) else second
  let fault? (path : ByteText) : Option FileFault :=
    if path = "-" then none
    else match s.content path with
      | .ok _ => none
      | .error fault => some fault
  let isMissing (path : ByteText) : Bool := fault? path matches some .missing
  if k.fillsMissing && isMissing first != isMissing second then
    let a ← contentOrEmpty (if isMissing first then none else some first)
    let b ← contentOrEmpty (if isMissing second then none else some second)
    return ← k.compareContents c false first second (a.toOption.getD "") (b.toOption.getD "")
  for path in [first, second] do
    match fault? path with
    | some fault => c.say (path ++ ": " ++ fault.reason)
    | none => pure ()
  if (fault? first).isSome || (fault? second).isSome then return 2
  let a ← contentOf first
  let b ← if isSameFile s first second then pure a else contentOf second
  match a, b with
  | .ok a, .ok b => k.compareContents c false first second a b
  | _, _ => return 2

end Comparison

/-- Show how one file becomes another one. -/
def showChanges : Tool := fun c =>
  withOptionsByName c 2 "0123456789abBcC:dEeHI:iL:NpqrsTtuU:wW:x:yZ"
      [("text", 'a', .never), ("ignore-space-change", 'b', .never),
        ("ignore-blank-lines", 'B', .never), ("context", 'C', .perhaps), ("minimal", 'd', .never),
        ("ed", 'e', .never), ("speed-large-files", 'H', .never),
        ("ignore-matching-lines", 'I', .always), ("ignore-case", 'i', .never),
        ("label", 'L', .always), ("new-file", 'N', .never), ("brief", 'q', .never),
        ("recursive", 'r', .never), ("report-identical-files", 's', .never),
        ("initial-tab", 'T', .never), ("expand-tabs", 't', .never), ("unified", 'U', .perhaps),
        ("ignore-all-space", 'w', .never), ("width", 'W', .always), ("exclude", 'x', .always),
        ("side-by-side", 'y', .never), ("ignore-trailing-space", 'Z', .never),
        ("normal", 'n', .never), ("left-column", 'l', .never),
        ("suppress-common-lines", 'o', .never), ("strip-trailing-cr", 'R', .never),
        ("color", 'g', .perhaps)] fun o => do
    let numberOf (option : Char × Option ByteText) : Option Nat :=
      match option.2 with
      | none => some 3
      | some text => if text.isEmpty then none else natural? text
    let counts := o.options.filter fun option => option.1 == 'C' || option.1 == 'U'
    match counts.find? fun option => (numberOf option).isNone with
    | some (_, text) =>
      return ← misusedByName c 2 ("invalid context length '" ++ text.getD "" ++ "'")
    | none => pure ()
    match (o.values 'W').find? fun text => ((natural? text).filter (· != 0)).isNone with
    | some text => return ← misusedByName c 2 ("invalid width '" ++ text ++ "'")
    | none => pure ()
    let digits := String.ofList ((o.options.map (·.1)).filter Char.isDigit)
    let isUnified := o.has 'u' || o.has 'U'
    let isContext := o.has 'c' || o.has 'C' || (o.has 'p' && !isUnified)
    let styles := [isUnified, isContext, o.has 'n', o.has 'e', o.has 'y'].countP id
    if 1 < styles then return ← misusedByName c 2 "conflicting output style options"
    let usual := (digits.toNat?).getD 3
    let around := (counts.filterMap numberOf).foldl max
      (if o.has 'u' || o.has 'c' || counts.isEmpty then usual else 0)
    let ignored ← match (o.values 'I').mapM fun text => Regex.ofText .basic text.toList with
      | .ok regexes => pure regexes
      | .error fault =>
        return ← c.fail 2 ((o.values 'I').headD "" ++ ": " ++ ByteText.ofText fault.message)
    match o.operands with
    | [] | [_] =>
      misusedByName c 2 ("missing operand after '" ++ c.arguments.getLastD c.name ++ "'")
    | _ :: _ :: extra :: _ => misusedByName c 2 ("extra operand '" ++ extra ++ "'")
    | [first, second] =>
      let options := c.arguments.filter fun word => !o.operands.contains word
      let layout : Columns :=
        ⟨((o.value? 'W').bind natural?).getD 130, o.has 'o', o.has 'l', o.has 't'⟩
      let k : Comparison := {
        style := if isUnified then .unified around
          else if isContext then .context around
          else if o.has 'e' then .script
          else if o.has 'y' then .columns layout else .plain
        blanks := if o.has 'w' then .all else if o.has 'b' then .amount
          else if o.has 'Z' then .trailing else .strict
        ignoresCase := o.has 'i'
        ignoresEmptyLines := o.has 'B'
        ignoredLines := ignored
        passedOver := (o.values 'x').map fun text =>
          Pattern.ofChars .plain (text.toList.map fun c => ⟨c, false⟩)
        dropsReturns := o.has 'R'
        isBrief := o.has 'q'
        namesSame := o.has 's'
        asText := o.has 'a'
        descends := o.has 'r'
        fillsMissing := o.has 'N'
        startsWithTab := o.has 'T'
        labels := o.values 'L'
        written := String.join (options.map (" " ++ ·)) }
      k.compareOperands c first second

end DesignAtlas.Shell.Tools
