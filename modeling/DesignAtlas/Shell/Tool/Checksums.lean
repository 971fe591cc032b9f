import DesignAtlas.Number.Digest
import DesignAtlas.Shell.Tool.Basic

/-!
# Checksums

Tools that write a number for the content of each file, and find out whether a content still has the
number that was written for it.

* `writeDigests` writes and checks digests.
* `writeRemainders` and `writeSums` write simpler numbers.
-/

namespace DesignAtlas.Shell.Tools

open Text Number

/-- A name as it is written behind a digest, with a backslash in front of the line if it holds
escapes. -/
def escapedName (name : ByteText) : ByteText × ByteText :=
  let letters : List (Char × ByteText) := [('\\', "\\\\"), ('\n', "\\n"), ('\r', "\\r")]
  let chars := name.toList
  if chars.any fun c => (letters.lookup c).isSome then
    ("\\", String.join (chars.map fun c => (letters.lookup c).getD c.toString))
  else ("", name)

/-- A name that was written with escapes. -/
def unescapedName : List Char → Option (List Char)
  | '\\' :: 'n' :: rest => (unescapedName rest).map ('\n' :: ·)
  | '\\' :: 'r' :: rest => (unescapedName rest).map ('\r' :: ·)
  | '\\' :: '\\' :: rest => (unescapedName rest).map ('\\' :: ·)
  | '\\' :: _ => none
  | c :: rest => (unescapedName rest).map (c :: ·)
  | [] => some []

/-- A digest and the name behind it, or in front of it. -/
def digestLine? (label : String) (size : Nat) (line : List Char) : Option (List Char × ByteText) :=
  let line := line.dropWhile fun c => c == ' ' || c == '\t'
  let (isEscaped, line) := match line with
    | '\\' :: rest => (true, rest)
    | line => (false, line)
  let isDigit (c : Char) : Bool := c.isDigit || ('a' ≤ c.toLower && c.toLower ≤ 'f')
  let named (name : List Char) : Option ByteText :=
    if isEscaped then (unescapedName name).map String.ofList else some (String.ofList name)
  let opening := (label ++ " (").toList
  if line.take opening.length = opening then
    -- The digest stands behind the last bracket.
    let behind := line.drop opening.length
    let digest := (behind.reverse.takeWhile isDigit).reverse
    let name := behind.take (behind.length - digest.length - 4)
    let between := (behind.drop name.length).take 4
    if digest.length = 2 * size ∧ between = ") = ".toList then
      (named name).map fun name => (digest, name)
    else none
  else
    let digest := line.takeWhile isDigit
    match line.drop digest.length with
    | ' ' :: mark :: c :: rest =>
      if digest.length ≠ 2 * size then none
      else
        let name := if mark = ' ' ∨ mark = '*' then c :: rest else mark :: c :: rest
        (named name).map fun name => (digest, name)
    | _ => none

/-- The words for a number of things, with the verb that belongs to it. -/
def countedText (n : Nat) (one many : ByteText) : ByteText :=
  Nat.repr n ++ (if n = 1 then one else many)

/-- What became of the lines of a list of digests. -/
structure CheckCounts where
  /-- The number of lines that hold no digest. -/
  improper : Nat
  /-- The number of lines that hold one. -/
  proper : Nat
  /-- The number of files that cannot be read. -/
  unread : Nat
  /-- The number of files with another digest. -/
  wrong : Nat
  /-- The number of files with the right digest. -/
  right : Nat

/-- Check the digests in a list. -/
def checkDigests (c : Call) (o : FoundOptions) (label : String) (d : Digest) (path : ByteText) :
    Run Bool := do
  match ← contentOf path with
  | .error fault =>
    c.sayFault path fault
    return false
  | .ok content =>
    let shown := if path = "-" then "'standard input'" else shownName path
    let tell (text : ByteText) : Run Unit := if o.has 'S' then return else c.say text
    let mut counts : CheckCounts := ⟨0, 0, 0, 0, 0⟩
    for (line, i) in (linesOf content).zipIdx do
      if line.startsWith "#" then continue
      match digestLine? label d.size line.toList with
      | none =>
        counts := { counts with improper := counts.improper + 1 }
        if o.has 'w' then
          c.say (shown ++ ": " ++ Nat.repr (i + 1) ++ ": improperly formatted " ++ label ++
            " checksum line")
      | some (digest, name) =>
        counts := { counts with proper := counts.proper + 1 }
        let (mark, name) := escapedName name
        match ← contentOf name with
        | .error fault =>
          if !(o.has 'm' && fault matches .missing) then
            counts := { counts with unread := counts.unread + 1 }
            c.sayFault name fault
            if !(o.has 'S') then write 1 (mark ++ name ++ ": FAILED open or read\n")
        | .ok content =>
          if d.hexOf content.toBytes == String.ofList (digest.map Char.toLower) then
            counts := { counts with right := counts.right + 1 }
            if !(o.has 'S' || o.has 'q') then write 1 (mark ++ name ++ ": OK\n")
          else
            counts := { counts with wrong := counts.wrong + 1 }
            if !(o.has 'S') then write 1 (mark ++ name ++ ": FAILED\n")
    if counts.proper = 0 then
      c.say (shown ++ ": no properly formatted checksum lines found")
      return false
    if counts.improper ≠ 0 then
      tell ("WARNING: " ++ countedText counts.improper " line is improperly formatted"
        " lines are improperly formatted")
    if counts.unread ≠ 0 then
      tell ("WARNING: " ++ countedText counts.unread " listed file could not be read"
        " listed files could not be read")
    if counts.wrong ≠ 0 then
      tell ("WARNING: " ++ countedText counts.wrong " computed checksum did NOT match"
        " computed checksums did NOT match")
    let nothing := o.has 'm' && counts.right = 0 && counts.wrong = 0
    if nothing then tell (shown ++ ": no file was verified")
    return !nothing && counts.wrong = 0 && counts.unread = 0 &&
      (!(o.has 'T') || counts.improper = 0)

/-- Write the digests of files, or check those in lists. -/
def writeDigests (label : String) (d : Digest) : Tool := fun c =>
  c.withOptions 1 "bctwz"
      [("binary", 'b', .never), ("check", 'c', .never), ("text", 't', .never),
        ("warn", 'w', .never), ("zero", 'z', .never), ("ignore-missing", 'm', .never),
        ("quiet", 'q', .never), ("status", 'S', .never), ("strict", 'T', .never),
        ("tag", 'g', .never)] fun o => do
    let options : List (Char × ByteText) :=
      [('m', "--ignore-missing"), ('S', "--status"), ('w', "--warn"), ('q', "--quiet"),
        ('T', "--strict")]
    if o.has 'c' then
      if o.has 'g' then
        return ← c.misused 1 "the --tag option is meaningless when verifying checksums"
      let mut fine := true
      for path in o.files do
        let isFine ← checkDigests c o label d path
        fine := fine && isFine
      return statusOf fine
    match options.find? fun option => o.has option.1 with
    | some (_, name) =>
      c.misused 1 ("the " ++ name ++ " option is meaningful only when verifying checksums")
    | none =>
      return statusOf (← c.forContents o.files fun path content => do
        let digest := d.hexOf content.toBytes
        let lineEnd := if o.has 'z' then "\x00" else "\n"
        let (mark, name) := if o.has 'z' then ("", path) else escapedName path
        if o.has 'g' then write 1 (mark ++ label ++ " (" ++ name ++ ") = " ++ digest ++ lineEnd)
        else
          let kind := if o.last? ['b', 't'] = some 'b' then " *" else "  "
          write 1 (mark ++ digest ++ kind ++ name ++ lineEnd))

/-- Write the remainders and sizes of files. -/
def writeRemainders : Tool := fun c =>
  c.withOptions 1 "" [] fun o => do
    return statusOf (← c.forContents o.files fun path content => do
      let name := if o.operands.isEmpty then "" else " " ++ path
      write 1 (Nat.repr (remainder32 content.toBytes) ++ " " ++ Nat.repr content.length ++ name ++
        "\n"))

/-- Write the sums and sizes of files. -/
def writeSums : Tool := fun c =>
  c.withOptions 1 "rs" [("sysv", 's', .never)] fun o => do
    return statusOf (← c.forContents o.files fun path content => do
      let name := if o.operands.isEmpty then "" else " " ++ path
      let bytes := content.toBytes
      if o.last? ['r', 's'] = some 's' then
        write 1 (Nat.repr (foldedSum bytes) ++ " " ++ Nat.repr ((bytes.length + 511) / 512) ++
          name ++ "\n")
      else
        let sum := Nat.repr (rotatingSum bytes)
        let blocks := Nat.repr ((bytes.length + 1023) / 1024)
        write 1 ("".pushn '0' (5 - sum.length) ++ sum ++ " " ++ "".pushn ' ' (5 - blocks.length) ++
          blocks ++ name ++ "\n"))

end DesignAtlas.Shell.Tools
