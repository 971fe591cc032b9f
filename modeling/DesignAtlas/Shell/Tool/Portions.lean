import DesignAtlas.Shell.Tool.Place

/-!
# Portions of files

* `copyBlocks` copies blocks of bytes from one place to another one.
* `splitFile` puts the portions of a file into files of their own.
-/

namespace DesignAtlas.Shell.Tools

open Text

/-! ### Blocks -/

/-- What a copy of blocks is told. -/
structure BlockCopy where
  /-- The file that is read. -/
  source : Option ByteText
  /-- The file that is written. -/
  goal : Option ByteText
  /-- The size of the blocks that are read. -/
  inputSize : Nat
  /-- The size of the blocks that are written. -/
  outputSize : Nat
  /-- Whether both sizes were given as one. -/
  hasOneSize : Bool
  /-- The number of blocks that are copied. -/
  count : Option Nat
  /-- The number of blocks that are passed over in the source. -/
  skip : Nat
  /-- The number of blocks that are passed over in the goal. -/
  seek : Nat
  /-- How the bytes are changed. -/
  conversions : List String
  /-- What is told about the copy. -/
  status : String

/-- A copy of blocks that is told nothing. -/
def BlockCopy.usual : BlockCopy :=
  ⟨none, none, 512, 512, false, none, 0, 0, [], ""⟩

/-- The ways to change bytes. -/
def blockConversions : List String :=
  ["ascii", "ebcdic", "ibm", "block", "unblock", "lcase", "ucase", "sparse", "swab", "sync",
    "excl", "nocreat", "notrunc", "noerror", "fdatasync", "fsync"]

/-- A number of blocks or bytes, which may be a product. -/
def blockNumber? (text : ByteText) : Option Nat :=
  let factor? (part : ByteText) : Option Nat :=
    match part.toList.reverse with
    | 'c' :: rest => natural? (String.ofList rest.reverse)
    | 'w' :: rest => (natural? (String.ofList rest.reverse)).map (2 * ·)
    | 'B' :: d :: rest =>
      if d.isDigit then natural? (String.ofList (d :: rest).reverse) else sizeOf? part
    | _ => sizeOf? part
  ((text.splitOn "x").mapM factor?).map fun factors => factors.foldl (· * ·) 1

/-- Read an operand of a copy of blocks. -/
def BlockCopy.read (b : BlockCopy) (operand : ByteText) : Except ByteText BlockCopy :=
  let name := String.ofList (operand.toList.takeWhile (· != '='))
  let value := String.ofList (operand.toList.drop (name.length + 1))
  let number (positive : Bool) (use : Nat → BlockCopy) : Except ByteText BlockCopy :=
    match (blockNumber? value).filter fun n => !positive || n != 0 with
    | some n => .ok (use n)
    | none => .error ("invalid number: " ++ quotedName value)
  let isWritten := name.length < operand.length
  match if isWritten then name else "" with
  | "if" => .ok { b with source := some value }
  | "of" => .ok { b with goal := some value }
  | "ibs" => number true fun n => { b with inputSize := n }
  | "obs" => number true fun n => { b with outputSize := n }
  | "bs" => number true fun n =>
      { b with inputSize := n, outputSize := n, hasOneSize := true }
  | "cbs" => number true fun _ => b
  | "count" => number false fun n => { b with count := some n }
  | "skip" => number false fun n => { b with skip := n }
  | "iseek" => number false fun n => { b with skip := n }
  | "seek" => number false fun n => { b with seek := n }
  | "oseek" => number false fun n => { b with seek := n }
  | "conv" =>
    let words := value.splitOn ","
    match words.find? (!blockConversions.contains ·) with
    | some word => .error ("invalid conversion: " ++ quotedName word)
    | none => .ok { b with conversions := b.conversions ++ words }
  | "iflag" => .ok b
  | "oflag" => .ok b
  | "status" =>
    if ["none", "noxfer", "progress"].contains value then .ok { b with status := value }
    else .error ("invalid status level: " ++ quotedName value)
  | _ => .error ("unrecognized operand " ++ quotedName operand)

/-- The blocks of a text, and the rest behind them. -/
def cutBlocks (size : Nat) : (count : Nat) → List Char → List (List Char) × List Char
  | 0, text => ([], text)
  | count + 1, text =>
    if text.isEmpty then ([], [])
    else
      let (blocks, rest) := cutBlocks size count (text.drop size)
      (text.take size :: blocks, rest)

/-- Two bytes at a time with their places changed. -/
def swappedBytes : List Char → List Char
  | a :: b :: rest => b :: a :: swappedBytes rest
  | rest => rest

/-- Copy blocks of bytes. -/
def copyBlocks : Tool := fun c => do
  let read := c.arguments.foldlM BlockCopy.read BlockCopy.usual
  match read with
  | .error message =>
    if message.startsWith "invalid number" || message.startsWith "invalid status" then
      c.fail 1 message
    else c.misused 1 message
  | .ok b =>
    let wrong (path : ByteText) (fault : FileFault) : Run Nat :=
      c.fail 1 ("failed to open " ++ quotedName path ++ ": " ++ fault.reason)
    let content ← match b.source with
      | some path => readFile path
      | none => readAll 0
    match content with
    | .error fault =>
      match b.source with
      | some path =>
        if fault matches .directory then
          c.fail 1 ("error reading " ++ quotedName path ++ ": Is a directory")
        else wrong path fault
      | none => c.fail 1 ("error reading 'standard input': " ++ fault.reason)
    | .ok content =>
      let text := content.toList.drop (b.skip * b.inputSize)
      let limit := min (b.count.getD (text.length + 1)) (text.length + 1)
      let (blocks, rest) := cutBlocks b.inputSize limit text
      if b.source.isNone then giveBack 0 rest.length
      let full := blocks.countP fun block => block.length == b.inputSize
      let has (word : String) : Bool := b.conversions.contains word
      let changed (block : List Char) : List Char :=
        let block := if has "sync" then block ++ List.replicate (b.inputSize - block.length) '\x00'
          else block
        let block := if has "swab" then swappedBytes block else block
        if has "ucase" then block.map Char.toUpper
        else if has "lcase" then block.map Char.toLower
        else block
      let written := (blocks.map changed).flatten
      let fullOut :=
        if b.hasOneSize then (blocks.map changed).countP fun block => block.length == b.outputSize
        else written.length / b.outputSize
      let partOut :=
        if b.hasOneSize then blocks.length - fullOut
        else if written.length % b.outputSize = 0 then 0 else 1
      let start := b.seek * b.outputSize
      let result : Except FileFault Unit ← match b.goal with
        | none => do
          write 1 (String.ofList written)
          pure (.ok ())
        | some path => do
          let s ← get
          let old := ((s.content path).toOption.getD []).map ByteText.charOf
          if has "excl" && (s.entryAt path).isSome then pure (.error .alreadyThere)
          else if has "nocreat" && (s.entryAt path).isNone then pure (.error .missing)
          else
            let before := old.take start
            let behind := if has "notrunc" then old.drop (start + written.length) else []
            putContent path false (String.ofList (before ++
              List.replicate (start - before.length) '\x00' ++ written ++ behind))
      match result with
      | .error fault => wrong (b.goal.getD "") fault
      | .ok () =>
        if b.status != "none" then
          let line (full part : Nat) (what : String) : ByteText :=
            Nat.repr full ++ "+" ++ Nat.repr part ++ " records " ++ what ++ "\n"
          write 2 (line full (blocks.length - full) "in" ++ line fullOut partOut "out")
          if b.status != "noxfer" then
            let unit := if written.length = 1 then " byte" else " bytes"
            write 2 (Nat.repr written.length ++ unit ++ " copied, 0.0001 s, 1.0 MB/s\n")
        return 0

/-! ### Portions -/

/-- The characters that count portions. -/
inductive SuffixKind where
  /-- Small letters. -/
  | letters
  /-- Decimal digits. -/
  | digits
  /-- Hexadecimal digits. -/
  | hexadecimal
  deriving DecidableEq, Repr

/-- The characters, in order. -/
def SuffixKind.alphabet : SuffixKind → List Char
  | letters => "abcdefghijklmnopqrstuvwxyz".toList
  | digits => "0123456789".toList
  | hexadecimal => "0123456789abcdef".toList

/-- A number of a portion as characters of a given number. -/
def suffixOf (alphabet : List Char) : (width : Nat) → Nat → List Char
  | 0, _ => []
  | width + 1, n =>
    suffixOf alphabet width (n / alphabet.length) ++
      [(alphabet[n % alphabet.length]?).getD 'a']

/-- The suffix of a portion. Without a given length, suffixes that are used up get longer behind the
last character. -/
def portionSuffix? (kind : SuffixKind) (width? : Option Nat) (n : Nat) : Option (List Char) :=
  let alphabet := kind.alphabet
  let size := alphabet.length
  match width? with
  | some width => if n < Nat.pow size width then some (suffixOf alphabet width n) else none
  | none =>
    let last := alphabet.getLastD 'z'
    let rec grown : (fuel : Nat) → (marks width : Nat) → Nat → List Char
      | 0, _, _, _ => []
      | fuel + 1, marks, width, n =>
        let room := (size - 1) * Nat.pow size (width - 1)
        if n < room then List.replicate marks last ++ suffixOf alphabet width n
        else grown fuel (marks + 1) (width + 1) (n - room)
    some (grown 20 0 2 n)

/-- Lines put together as long as they fit into a number of bytes. Longer lines are cut. -/
def packedLines (size : Nat) (lines : List (List Char)) : List (List Char) :=
  let pieces := lines.flatMap fun line => (cutBlocks size (line.length + 1) line).1
  let (done, last) := pieces.foldl (fun (state : List (List Char) × List Char) piece =>
    if state.2.isEmpty then (state.1, piece)
    else if state.2.length + piece.length ≤ size then (state.1, state.2 ++ piece)
    else (state.2 :: state.1, piece)) ([], [])
  (if last.isEmpty then done else last :: done).reverse

/-- The parts of a text of about the same size. -/
def evenParts (count : Nat) (text : List Char) : List (List Char) :=
  let size := text.length / count
  let extra := text.length % count
  let rec go : (left : Nat) → (extra : Nat) → List Char → List (List Char)
    | 0, _, _ => []
    | left + 1, extra, text =>
      let here := size + (if extra = 0 then 0 else 1)
      text.take here :: go left (extra - 1) (text.drop here)
  go count extra text

/-- The parts of a text of about the same size that consist of whole lines. -/
def evenLineParts (count : Nat) (text : List Char) : List (List Char) :=
  let ends := ((evenParts count text).foldl (fun (found : List Nat) part =>
    (found.headD 0 + part.length) :: found) []).reverse
  let lines := splitLines '\n' text
  let placed := (lines.foldl (fun (state : List (Nat × List Char) × Nat) line =>
    ((state.2, line) :: state.1, state.2 + line.length)) ([], 0)).1.reverse
  (List.range count).map fun i =>
    let start := if i = 0 then 0 else (ends[i - 1]?).getD 0
    let stop := (ends[i]?).getD 0
    ((placed.filter fun p => start ≤ p.1 ∧ p.1 < stop).map (·.2)).flatten

/-- Put the portions of a file into files of their own. -/
def splitFile : Tool := fun c =>
  c.withNumbers 'l' 1 "a:b:C:d::el:n:ut:x::"
      [("suffix-length", 'a', .always), ("bytes", 'b', .always), ("line-bytes", 'C', .always),
        ("numeric-suffixes", 'd', .perhaps), ("hex-suffixes", 'x', .perhaps),
        ("elide-empty-files", 'e', .never), ("lines", 'l', .always), ("number", 'n', .always),
        ("unbuffered", 'u', .never), ("separator", 't', .always), ("verbose", 'v', .never),
        ("additional-suffix", 's', .always)] fun o => do
    let number (text : ByteText) : Option Nat := (sizeOf? text).filter (· != 0)
    -- Chunks are divided by kind, and one of them can be asked for.
    let (chunkKind, wanted, chunkText) : ByteText × Option ByteText × ByteText :=
      match ((o.value? 'n').getD "").splitOn "/" with
      | ["l", n] => ("l", none, n)
      | ["r", n] => ("r", none, n)
      | ["l", k, n] => ("l", some k, n)
      | ["r", k, n] => ("r", some k, n)
      | [k, n] => ("", some k, n)
      | parts => ("", none, "/".intercalate parts)
    let wrong? : Option ByteText :=
      (o.options.findSome? fun option =>
        match option with
        | ('l', some text) =>
          if (number text).isNone then some ("invalid number of lines: " ++ quotedName text)
          else none
        | ('b', some text) =>
          if (number text).isNone then some ("invalid number of bytes: " ++ quotedName text)
          else none
        | ('C', some text) =>
          if (number text).isNone then some ("invalid number of lines: " ++ quotedName text)
          else none
        | ('n', some _) =>
          match number chunkText, wanted with
          | none, _ => some ("invalid number of chunks: " ++ quotedName chunkText)
          | some n, some k =>
            if ((number k).filter (· ≤ n)).isNone then
              some ("invalid chunk number: " ++ quotedName k)
            else none
          | some _, none => none
        | ('a', some text) =>
          if (natural? text).isNone then some ("invalid suffix length: " ++ quotedName text)
          else none
        | _ => none)
    match wrong?, o.operands with
    | some message, _ => c.fail 1 message
    | none, _ :: _ :: extra :: _ => c.misused 1 ("extra operand " ++ quotedName extra)
    | none, operands =>
      if 1 < (["l", "b", "C", "n"].filter fun w => o.has (w.toList.headD ' ')).length then
        return ← c.misused 1 "cannot split in more than one way"
      let path := operands.headD "-"
      let start := operands[1]?.getD "x"
      match ← contentOf path with
      | .error fault =>
        if fault matches .directory then c.fail 1 (shownName path ++ ": read error: Is a directory")
        else c.fail 1 ("cannot open " ++ quotedName path ++ " for reading: " ++ fault.reason)
      | .ok content =>
        let text := content.toList
        let mark : Char := match (o.value? 't').map String.toList with
          | some ['\\', '0'] => '\x00'
          | some (m :: _) => m
          | _ => '\n'
        let lines := splitLines mark text
        let groups (n : Nat) (items : List (List Char)) : List (List Char) :=
          let rec go : (fuel : Nat) → List (List Char) → List (List Char)
            | 0, _ => []
            | fuel + 1, items =>
              if items.isEmpty then [] else (items.take n).flatten :: go fuel (items.drop n)
          go (items.length + 1) items
        let valueOf (letter : Char) : Option Nat := (o.value? letter).bind number
        let chunks := (number chunkText).getD 1
        let portions : List (List Char) :=
          match valueOf 'b', valueOf 'C', o.value? 'n' with
          | some size, _, _ => (cutBlocks size (text.length + 1) text).1
          | _, some size, _ => packedLines size lines
          | _, _, some _ =>
            if chunkKind = "l" then evenLineParts chunks text
            else if chunkKind = "r" then
              (List.range chunks).map fun i =>
                ((lines.zipIdx.filter fun l => l.2 % chunks == i).map (·.1)).flatten
            else evenParts chunks text
          | none, none, none => groups ((valueOf 'l').getD 1000) lines
        -- A single portion that is asked for goes to the output.
        if let some k := wanted.bind number then
          write 1 (String.ofList ((portions[k - 1]?).getD []))
          return 0
        let portions := if o.has 'e' then portions.filter (!·.isEmpty) else portions
        let kind : SuffixKind := match o.last? ['d', 'x'] with
          | some 'd' => .digits
          | some _ => .hexadecimal
          | none => .letters
        let offset := (((o.value? 'd').or (o.value? 'x')).bind natural?).getD 0
        let given := ((o.value? 'a').bind natural?).filter (· != 0)
        let width := match given, o.value? 'n' with
          | some n, _ => some n
          | none, some _ => some (max 2 (suffixWidth kind.alphabet.length (portions.length - 1) 20))
          | none, none => none
        for (portion, i) in portions.zipIdx do
          match portionSuffix? kind width (i + offset) with
          | none => return ← c.fail 1 "output file suffixes exhausted"
          | some suffix =>
            let name := start ++ String.ofList suffix ++ (o.value? 's').getD ""
            if o.has 'v' then write 1 ("creating file " ++ quotedName name ++ "\n")
            match ← putContent name false (String.ofList portion) with
            | .ok () => pure ()
            | .error fault => return ← c.fail 1 (shownName name ++ ": " ++ fault.reason)
        return 0
where
  /-- The number of characters that a number needs. -/
  suffixWidth (size n : Nat) : (fuel : Nat) → Nat
    | 0 => 1
    | fuel + 1 => if n < size then 1 else 1 + suffixWidth size (n / size) fuel

end DesignAtlas.Shell.Tools
