import DesignAtlas.Shell.Tool.Order

/-!
# Tools for lines

Tools that sort lines, compare lines that follow one another or stand in two files, and put lines
together.

* `sortLines` sorts lines by keys.
* `reduceLines` keeps one of several equal lines that follow one another.
* `compareSorted` and `joinLines` work on two sorted files, `pasteLines` on several files.
-/

namespace DesignAtlas.Shell.Tools

/-! ### Sorting -/

/-- A number at the start of a text, with the text behind it. -/
def leadingNatural? (text : List Char) : Option (Nat × List Char) :=
  let digits := text.takeWhile Char.isDigit
  if digits.isEmpty then none
  else (natural? (String.ofList digits)).map fun n => (n, text.drop digits.length)

/-- The letters of ways of comparing. -/
def sortLetters : List Char := ['b', 'd', 'f', 'g', 'h', 'i', 'M', 'n', 'R', 'r', 'V']

/-- One end of a key: the field, the character, and the letters behind them. -/
def keyEnd? (text : List Char) : Option (Nat × Nat × List Char × List Char) := do
  let (field, rest) ← leadingNatural? text
  let (char, rest) ← match rest with
    | '.' :: rest => leadingNatural? rest
    | rest => some (0, rest)
  let letters := rest.takeWhile sortLetters.contains
  return (field, char, letters, rest.drop letters.length)

/-- Read a key, or say what is wrong with it. -/
def readKey (text : ByteText) : Except ByteText SortKey :=
  let wrong (what : ByteText) : Except ByteText SortKey :=
    .error (what ++ ": invalid field specification " ++ quotedName text)
  match keyEnd? text.toList with
  | none =>
    .error ("invalid number at field start: invalid count at start of " ++ quotedName text)
  | some (0, _, _, _) => wrong "field number is zero"
  | some (field + 1, char, letters, rest) =>
    let start : SortKey := ⟨field, char - 1, none, 0, letters, letters.contains 'b', false⟩
    if text.toList.any (· == '.') ∧ char = 0 ∧
        (text.toList.takeWhile (· != ',')).contains '.' then
      wrong "character offset is zero"
    else
      match rest with
      | [] => .ok start
      | ',' :: rest =>
        match keyEnd? rest with
        | none =>
          .error ("invalid number after ',': invalid count at start of " ++
            quotedName (String.ofList rest))
        | some (0, _, _, _) => wrong "field number is zero"
        | some (last + 1, char, others, []) =>
          .ok { start with
            lastField := some last, lastChar := char, letters := letters ++ others,
            skipsAtEnd := others.contains 'b' }
        | some _ => wrong "stray character in field spec"
      | _ => wrong "stray character in field spec"

/-- How lines are sorted. -/
structure Sorting where
  /-- The keys. -/
  keys : List SortKey
  /-- The character between fields, if it is not blanks. -/
  separator : Option Char
  /-- Whether equal lines are kept once. -/
  isUnique : Bool
  /-- Whether lines with equal keys stay in their order. -/
  isStable : Bool
  /-- Whether the order of whole lines is turned around. -/
  isReversed : Bool

namespace Sorting

/-- Compare two lines by the keys. -/
def compareKeys (o : Sorting) (a b : List Char) : Ordering :=
  o.keys.foldl (fun found k => found.then (k.compare o.separator a b)) .eq

/-- Compare two lines. -/
def compare (o : Sorting) (a b : List Char) : Ordering :=
  let byKeys := o.compareKeys a b
  let asWhole := compareChars a b
  let asWhole := if o.isReversed then asWhole.swap else asWhole
  if o.keys.isEmpty then asWhole
  else if o.isUnique || o.isStable then byKeys
  else byKeys.then asWhole

/-- Keep the first of equal lines that follow one another. -/
def distinct (o : Sorting) : List (List Char) → List (List Char)
  | [] => []
  | [a] => [a]
  | a :: b :: rest =>
    if o.compare a b == .eq then
      distinct o (a :: rest)
    else a :: distinct o (b :: rest)
termination_by lines => lines.length

/-- Sort lines. -/
def sort (o : Sorting) (lines : List (List Char)) : List (List Char) :=
  let sorted := lines.mergeSort fun a b => o.compare a b != .gt
  if o.isUnique then o.distinct sorted else sorted

/-- The number of the first line that is out of order, and the line. -/
def disorder? (o : Sorting) : (number : Nat) → List (List Char) → Option (Nat × List Char)
  | number, a :: b :: rest =>
    let found := o.compare a b
    if found == .gt || (o.isUnique && found == .eq) then some (number + 1, b)
    else disorder? o (number + 1) (b :: rest)
  | _, _ => none

end Sorting

/-- The sorting that options ask for, or what is wrong with them. -/
def Sorting.ofOptions (o : FoundOptions) : Except ByteText Sorting := do
  let readSeparator (text : ByteText) : Except ByteText Char :=
    match text.toList with
    | [c] => return c
    | [] => throw "empty tab"
    | ['\\', '0'] => return '\x00'
    | _ => throw ("multi-character tab " ++ quotedName text)
  let separator? ← (o.value? 't').mapM readSeparator
  let global := (o.options.map (·.1)).filter sortLetters.contains
  let isPlain (letters : List Char) : Bool := letters.all (· == 'r')
  let keys ← (o.values 'k').mapM readKey
  let keys := keys.map fun k =>
    if k.letters.isEmpty then
      { k with
        letters := global, skipsAtStart := global.contains 'b', skipsAtEnd := global.contains 'b' }
    else k
  let keys :=
    if keys.isEmpty && !isPlain global then
      [⟨0, 0, none, 0, global, global.contains 'b', false⟩]
    else keys
  return ⟨keys, separator?, o.has 'u', o.has 's', global.contains 'r'⟩

/-- Sort lines. -/
def sortLines : Tool := fun c =>
  c.withOptions 2 "bcCdfghik:mMno:rRsS:t:T:uVz"
      [("ignore-leading-blanks", 'b', .never), ("dictionary-order", 'd', .never),
        ("ignore-case", 'f', .never), ("general-numeric-sort", 'g', .never),
        ("human-numeric-sort", 'h', .never), ("ignore-nonprinting", 'i', .never),
        ("month-sort", 'M', .never), ("numeric-sort", 'n', .never), ("random-sort", 'R', .never),
        ("reverse", 'r', .never), ("version-sort", 'V', .never), ("check", 'c', .perhaps),
        ("key", 'k', .always), ("merge", 'm', .never), ("output", 'o', .always),
        ("stable", 's', .never), ("field-separator", 't', .always), ("unique", 'u', .never),
        ("zero-terminated", 'z', .never)] fun o => do
    match Sorting.ofOptions o with
    | .error message => c.fail 2 message
    | .ok sorting =>
      let s ← get
      let missing? := o.operands.findSome? fun path =>
        if path = "-" then none
        else
          match s.openStream .read path with
          | .error fault => some (path, fault)
          | .ok _ => none
      match missing? with
      | some (path, fault) => c.fail 2 ("cannot read: " ++ shownName path ++ ": " ++ fault.reason)
      | none =>
        let lineEnd := if o.has 'z' then '\x00' else '\n'
        let mut lines := []
        for path in o.files do
          match ← contentOf path with
          | .error fault =>
            return ← c.fail 2 ("read failed: " ++ shownName path ++ ": " ++ fault.reason)
          | .ok content =>
            lines := lines ++ (splitLines lineEnd content.toList).map (unended lineEnd)
        if o.has 'c' || o.has 'C' then
          match sorting.disorder? 1 lines with
          | none => return 0
          | some (number, line) =>
            if !o.has 'C' && o.value? 'c' != some "quiet" && o.value? 'c' != some "silent" then
              c.say (shownName (o.files.headD "-") ++ ":" ++ Nat.repr number ++ ": disorder: " ++
                String.ofList line)
            return 1
        let text := String.join ((sorting.sort lines).map fun line =>
          String.ofList (line ++ [lineEnd]))
        match o.value? 'o' with
        | none =>
          write 1 text
          return 0
        | some path =>
          match ← putContent path false text with
          | .ok () => return 0
          | .error fault => c.fail 2 ("open failed: " ++ shownName path ++ ": " ++ fault.reason)

/-! ### Repeated lines -/

/-- The runs of lines that follow one another and are equal in what is compared. -/
def runsOf (key : List Char → List Char) : List (List Char) → List (List (List Char))
  | [] => []
  | line :: rest =>
    match runsOf key rest with
    | (next :: others) :: runs =>
      if key line = key next then (line :: next :: others) :: runs
      else [line] :: (next :: others) :: runs
    | runs => [line] :: runs

/-- Keep one of several equal lines that follow one another. -/
def reduceLines : Tool := fun c =>
  let spelled : Call :=
    match c.arguments with
    | first :: rest =>
      match first.toList with
      | '-' :: d :: more =>
        if d.isDigit then { c with arguments := "-f" :: String.ofList (d :: more) :: rest } else c
      | _ => c
    | [] => c
  spelled.withOptions 1 "cdDf:is:uw:z"
      [("count", 'c', .never), ("repeated", 'd', .never), ("all-repeated", 'D', .perhaps),
        ("skip-fields", 'f', .always), ("ignore-case", 'i', .never), ("skip-chars", 's', .always),
        ("unique", 'u', .never), ("check-chars", 'w', .always),
        ("zero-terminated", 'z', .never)] fun o => do
    let purposes : List (Char × ByteText) :=
      [('f', "invalid number of fields to skip"), ('s', "invalid number of bytes to skip"),
        ('w', "invalid number of bytes to compare")]
    match purposes.find? fun p => (o.value? p.1).any fun text => (sizeOf? text).isNone with
    | some (letter, what) =>
      return ← c.fail 1 ((o.value? letter).getD "" ++ ": " ++ what)
    | none => pure ()
    let number (letter : Char) : Nat := ((o.value? letter).bind sizeOf?).getD 0
    let lineEnd := if o.has 'z' then '\x00' else '\n'
    let key (line : List Char) : List Char :=
      let behind := (SortKey.afterFields none (number 'f') line).drop (number 's')
      let compared := if o.has 'w' then behind.take (number 'w') else behind
      if o.has 'i' then compared.map Char.toUpper else compared
    match o.operands with
    | _ :: _ :: extra :: _ => c.misused 1 ("extra operand " ++ quotedName extra)
    | operands =>
      match ← contentOf (operands.headD "-") with
      | .error fault =>
        let path := operands.headD "-"
        match fault with
        | .directory => c.fail 1 ("error reading " ++ quotedName path ++ ": " ++ fault.reason)
        | _ => c.fail 1 (shownName path ++ ": " ++ fault.reason)
      | .ok content =>
        let lines := (splitLines lineEnd content.toList).map (unended lineEnd)
        let shown := (runsOf key lines).flatMap fun run =>
          let isRepeated := 1 < run.length
          let count := Nat.repr run.length
          let mark := if o.has 'c' then "".pushn ' ' (7 - count.length) ++ count ++ " " else ""
          if o.has 'D' then (if isRepeated then run else [])
          else if (o.has 'd' && !isRepeated) || (o.has 'u' && isRepeated) then []
          else (run.take 1).map (mark.toList ++ ·)
        let text := String.join (shown.map fun line => String.ofList (line ++ [lineEnd]))
        match operands with
        | [_, path] =>
          match ← putContent path false text with
          | .ok () => return 0
          | .error fault => c.fail 1 (shownName path ++ ": " ++ fault.reason)
        | _ =>
          write 1 text
          return 0

/-! ### Two files -/

/-- The contents of exactly two files. A message or a fault ends the tool. -/
def withTwoFiles (c : Call) (o : FoundOptions) (work : (first second : ByteText) → Run Nat) :
    Run Nat := do
  match o.operands with
  | [] => c.misused 1 "missing operand"
  | [only] => c.misused 1 ("missing operand after " ++ quotedName only)
  | [first, second] =>
    match ← contentOf first with
    | .error fault => c.fail 1 (shownName first ++ ": " ++ fault.reason)
    | .ok one =>
      match ← contentOf second with
      | .error fault => c.fail 1 (shownName second ++ ": " ++ fault.reason)
      | .ok two => work one two
  | _ :: _ :: extra :: _ => c.misused 1 ("extra operand " ++ quotedName extra)

/-- Merge two sorted lists of lines: each line with the number of the list it stands in, or 3 for
both. -/
def merged : (fuel : Nat) → List (List Char) → List (List Char) → List (Nat × List Char)
  | 0, _, _ => []
  | _ + 1, [], second => second.map fun line => (2, line)
  | _ + 1, first, [] => first.map fun line => (1, line)
  | fuel + 1, a :: first, b :: second =>
    match compareChars a b with
    | .lt => (1, a) :: merged fuel first (b :: second)
    | .gt => (2, b) :: merged fuel (a :: first) second
    | .eq => (3, a) :: merged fuel first second

/-- Whether lines are sorted. -/
def isSorted : List (List Char) → Bool
  | a :: b :: rest => compareChars a b != .gt && isSorted (b :: rest)
  | _ => true

/-- Show the lines that two sorted files have in common and those that only one has. -/
def compareSorted : Tool := fun c =>
  c.withOptions 1 "123z"
      [("check-order", 'x', .never), ("nocheck-order", 'y', .never),
        ("output-delimiter", 'd', .always), ("total", 't', .never)] fun o =>
    withTwoFiles c o fun one two => do
      let first := (splitLines '\n' one.toList).map (unended '\n')
      let second := (splitLines '\n' two.toList).map (unended '\n')
      let between := (o.value? 'd').getD "\t"
      let shows (column : Nat) : Bool := !o.has (Char.ofNat (48 + column))
      let gap (column : Nat) : ByteText :=
        String.join (((List.range column).filter fun n => n != 0 && shows n).map fun _ => between)
      let lines := merged (first.length + second.length + 1) first second
      writeLines (lines.filterMap fun (column, line) =>
        if shows column then some (gap column ++ String.ofList line) else none)
      if o.has 't' then
        let count (column : Nat) : ByteText :=
          Nat.repr (lines.filter fun line => line.1 == column).length
        write 1 (between.intercalate [count 1, count 2, count 3, "total"] ++ "\n")
      let hasOwn := lines.any fun line => line.1 != 3
      let mut fine := true
      if !o.has 'y' && hasOwn then
        for (number, lines) in [("1", first), ("2", second)] do
          if !isSorted lines then
            c.say ("file " ++ number ++ " is not in sorted order")
            fine := false
        if !fine then c.say "input is not in sorted order"
      return statusOf fine

/-- The fields of a line. -/
def fieldsBetween (separator : Option Char) (line : ByteText) : List ByteText :=
  match separator with
  | some c => line.splitOn c.toString
  | none =>
    let rec go : (fuel : Nat) → List Char → List ByteText
      | 0, _ => []
      | fuel + 1, text =>
        let text := text.dropWhile isBlank
        let field := text.takeWhile (!isBlank ·)
        if field.isEmpty then [] else String.ofList field :: go fuel (text.drop field.length)
    go (line.length + 1) line.toList

/-- Join the lines of two sorted files that have a field in common. -/
def joinLines : Tool := fun c =>
  c.withOptions 1 "a:e:i1:2:j:o:t:v:"
      [("ignore-case", 'i', .never), ("check-order", 'x', .never), ("nocheck-order", 'y', .never),
        ("header", 'h', .never)] fun o =>
    withTwoFiles c o fun one two => do
      let separator := (o.value? 't').bind fun t => t.toList.head?
      let number (letter : Char) : Nat :=
        (((o.value? letter).or (o.value? 'j')).bind natural?).getD 1
      let places := [number '1', number '2']
      let filler := (o.value? 'e').getD ""
      let between := separator.elim " " Char.toString
      let key (side : Nat) (fields : List ByteText) : ByteText :=
        let text := fields.getD ((places.getD side 1) - 1) ""
        if o.has 'i' then recased .lower text else text
      let first := (linesOf one).map (fieldsBetween separator)
      let second := (linesOf two).map (fieldsBetween separator)
      let wanted := (o.values 'o').flatMap fun text =>
        (text.splitOn ",").flatMap fun part => part.splitOn " "
      let others (side : Nat) (fields : List ByteText) : List ByteText :=
        fields.eraseIdx ((places.getD side 1) - 1)
      let shown (common : ByteText) (a b : Option (List ByteText)) : ByteText :=
        let fields :=
          if wanted.isEmpty || wanted == ["auto"] then
            common :: (a.elim [] (others 0) ++ b.elim [] (others 1))
          else
            wanted.map fun place =>
              match place.toList with
              | ['0'] => common
              | side :: '.' :: digits =>
                let fields := if side = '1' then a else b
                let field := fields.bind fun f => f[((natural? (String.ofList digits)).getD 1) - 1]?
                match field with
                | some "" => filler
                | some text => text
                | none => filler
              | _ => filler
        between.intercalate fields
      let unpaired (side : ByteText) : Bool :=
        (o.values 'a').contains side || (o.values 'v').contains side
      let pairs := !o.has 'v'
      let alone (side : Nat) (fields : List ByteText) : List ByteText :=
        let common := fields.getD ((places.getD side 1) - 1) ""
        if !unpaired (Nat.repr (side + 1)) then []
        else if side = 0 then [shown common (some fields) none]
        else [shown common none (some fields)]
      let rec go : (fuel : Nat) → List (List ByteText) → List (List ByteText) → List ByteText
        | 0, _, _ => []
        | _ + 1, [], second => second.flatMap (alone 1)
        | _ + 1, first, [] => first.flatMap (alone 0)
        | fuel + 1, a :: first, b :: second =>
          match compareChars (key 0 a).toList (key 1 b).toList with
          | .lt => alone 0 a ++ go fuel first (b :: second)
          | .gt => alone 1 b ++ go fuel (a :: first) second
          | .eq =>
            let same := key 0 a
            let left := (a :: first).takeWhile fun fields => key 0 fields == same
            let right := (b :: second).takeWhile fun fields => key 1 fields == same
            let common := a.getD ((places.getD 0 1) - 1) ""
            (if pairs then
              left.flatMap fun x => right.map fun y => shown common (some x) (some y)
            else []) ++
              go fuel ((a :: first).drop left.length) ((b :: second).drop right.length)
      writeLines (go (first.length + second.length + 1) first second)
      return 0

/-! ### Several files -/

/-- The characters that a list of delimiters stands for; none stands for no character. -/
def delimiters : List Char → List (Option Char)
  | [] => []
  | '\\' :: c :: rest =>
    (match c with
      | 'n' => some '\n'
      | 't' => some '\t'
      | '0' => none
      | 'b' => some '\x08'
      | 'f' => some '\x0c'
      | 'r' => some '\r'
      | 'v' => some '\x0b'
      | c => some c) :: delimiters rest
  | c :: rest => some c :: delimiters rest

/-- Put lines together, with delimiters between them one after the other. -/
def pasted (between : List (Option Char)) (fields : List ByteText) : ByteText :=
  let ends := (List.range (fields.length - 1)).map fun i =>
    ((between[i % max 1 between.length]?).join).elim "" Char.toString
  String.join ((fields.zip (ends ++ [""])).map fun part => part.1 ++ part.2)

/-- Put the lines of files side by side, or the lines of each file into one. -/
def pasteLines : Tool := fun c =>
  c.withOptions 1 "d:sz"
      [("delimiters", 'd', .always), ("serial", 's', .never),
        ("zero-terminated", 'z', .never)] fun o => do
    let between := delimiters ((o.value? 'd').getD "\t").toList
    let between := if between.isEmpty then [none] else between
    if o.has 's' then
      return statusOf (← c.forContents o.files fun _ content =>
        writeLines [pasted between (linesOf content)])
    else
      let inputs := (o.files.filter (· == "-")).length
      let mut columns := []
      let mut standard := []
      let mut taken := 0
      for path in o.files do
        if path = "-" then
          if taken = 0 then
            standard := ((← contentOf "-").toOption.elim [] linesOf)
          let mine := standard.zipIdx.filterMap fun line =>
            if line.2 % inputs = taken then some line.1 else none
          taken := taken + 1
          columns := columns ++ [mine]
        else
          match ← contentOf path with
          | .ok content => columns := columns ++ [linesOf content]
          | .error fault => return ← c.fail 1 (shownName path ++ ": " ++ fault.reason)
      let height := (columns.map List.length).foldl max 0
      writeLines ((List.range height).map fun i =>
        pasted between (columns.map fun column => column.getD i ""))
      return 0

/-! ### Parts of lines -/

/-- The places that a list of ranges names: pairs of first and last places. -/
def readRanges (isField : Bool) (text : ByteText) :
    Except ByteText (List (Nat × Option Nat)) := do
  let subject := if isField then "fields" else "byte/character positions"
  let invalid (part : ByteText) : ByteText :=
    (if isField then "invalid field value " else "invalid byte/character position ") ++
      quotedName part
  let parts := (text.splitOn ",").flatMap fun part => part.splitOn " "
  parts.mapM fun part => do
    let number (digits : List Char) : Except ByteText Nat :=
      match natural? (String.ofList digits) with
      | some n => if n = 0 then throw (subject ++ " are numbered from 1") else return n
      | none => throw (invalid (String.ofList digits))
    let first := part.toList.takeWhile (· != '-')
    match part.toList.drop first.length with
    | [] =>
      if first.isEmpty then throw (subject ++ " are numbered from 1")
      let n ← number first
      return (n, some n)
    | _ :: last =>
      match first, last with
      | [], [] => throw "invalid range with no endpoint: -"
      | first, [] => return (← number first, none)
      | [], last => return (1, some (← number last))
      | first, last =>
        let a ← number first
        let b ← number last
        if b < a then throw "invalid decreasing range"
        return (a, some b)

/-- Whether a place lies in one of several ranges. -/
def isPlaceIn (ranges : List (Nat × Option Nat)) (place : Nat) : Bool :=
  ranges.any fun r => decide (r.1 ≤ place) && r.2.all fun last => decide (place ≤ last)

/-- Show parts of lines. -/
def cutLines : Tool := fun c =>
  c.withOptions 1 "b:c:d:f:nsz"
      [("bytes", 'b', .always), ("characters", 'c', .always), ("delimiter", 'd', .always),
        ("fields", 'f', .always), ("only-delimited", 's', .never), ("complement", 'C', .never),
        ("output-delimiter", 'O', .always), ("zero-terminated", 'z', .never)] fun o => do
    let lists := o.options.filter fun found => ['b', 'c', 'f'].contains found.1
    match lists with
    | [] => c.misused 1 "you must specify a list of bytes, characters, or fields"
    | _ :: _ :: _ => c.misused 1 "only one list may be specified"
    | [(letter, list?)] =>
      let isField := letter == 'f'
      if ((o.value? 'd').any fun d => 1 < d.length) then
        return ← c.misused 1 "the delimiter must be a single character"
      if !isField && o.has 'd' then
        return ← c.misused 1 "an input delimiter may be specified only when operating on fields"
      if !isField && o.has 's' then
        return ← c.misused 1
          "suppressing non-delimited lines makes sense\n\tonly when operating on fields"
      match readRanges isField (list?.getD "") with
      | .error message => c.misused 1 message
      | .ok ranges =>
        let keeps (place : Nat) : Bool := isPlaceIn ranges place != o.has 'C'
        let delimiter := match (o.value? 'd').map String.toList with
          | some (d :: _) => d
          | some [] => '\x00'
          | none => '\t'
        let between := (o.value? 'O').getD delimiter.toString
        let lineEnd := if o.has 'z' then '\x00' else '\n'
        let part (line : List Char) : Option ByteText :=
          if isField then
            if !line.contains delimiter then
              if o.has 's' then none else some (String.ofList line)
            else
              let fields := (String.ofList line).splitOn delimiter.toString
              some (between.intercalate (fields.zipIdx.filterMap fun field =>
                if keeps (field.2 + 1) then some field.1 else none))
          else
            -- Ranges that follow one another are divided if a delimiter is asked for.
            let chosen := line.zipIdx.filter fun char => keeps (char.2 + 1)
            let starts (place : Nat) : Bool :=
              !keeps place || ranges.any fun r => r.1 == place + 1 && !(ranges.any fun other =>
                other.1 < r.1 && other.2.all fun last => decide (r.1 ≤ last))
            let text := chosen.zipIdx.map fun (char, i) =>
              (if o.has 'O' && i != 0 && starts char.2 then between else "") ++ char.1.toString
            some (String.join text)
        return statusOf (← c.forContents o.files fun _ content => do
          let lines := (splitLines lineEnd content.toList).map (unended lineEnd)
          write 1 (String.join ((lines.filterMap part).map fun line =>
            line ++ lineEnd.toString)))

end DesignAtlas.Shell.Tools
