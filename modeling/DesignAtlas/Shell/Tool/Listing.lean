import DesignAtlas.Number.Total
import DesignAtlas.Shell.Test
import DesignAtlas.Shell.Tool.Calendar
import DesignAtlas.Shell.Tool.Order
import DesignAtlas.Shell.Tool.Place

/-!
# Tools that list directories and take paths apart

* `listDirectories` shows what is inside directories.
* `showTargets` and `showRealPaths` follow links.
* `showLastParts` and `showParents` take paths apart.
-/

namespace DesignAtlas.Shell.Tools

/-! ### Columns -/

/-- Blanks and tabs that lead from a column to another one. -/
def indentation : (fuel : Nat) → (start stop : Nat) → ByteText
  | 0, _, _ => ""
  | fuel + 1, start, stop =>
    if start < stop then
      if (start + 1) / 8 < stop / 8 then
        "\t" ++ indentation fuel (start + 8 - start % 8) stop
      else " " ++ indentation fuel (start + 1) stop
    else ""

/-- The widths of so many columns of names, filled downwards or across. -/
def columnWidths (names : List ByteText) (down : Bool) (columns : Nat) : List Nat :=
  let rows := (names.length + columns - 1) / columns
  (List.range columns).map fun column =>
    let mine := names.zipIdx.filter fun name =>
      (if down then name.2 / rows else name.2 % columns) == column
    let gap := if column + 1 = columns then 0 else 2
    (mine.map fun name => name.1.length + gap).foldl max 3

/-- Names in as many columns as fit into a line. -/
def inColumns (names : List ByteText) (down : Bool) (width : Nat) : ByteText :=
  let most := min names.length (max 1 (width / 3))
  let fits (columns : Nat) : Bool := decide (Number.total (columnWidths names down columns) < width)
  let columns := max 1 ((((List.range (most + 1)).reverse.filter (· != 0)).find? fits).getD 1)
  let rows := (names.length + columns - 1) / columns
  let widths := columnWidths names down columns
  let starts := (List.range columns).map fun i => Number.total (widths.take i)
  String.join <| (List.range rows).map fun row =>
    let line := (List.range columns).filterMap fun column =>
      (names[if down then column * rows + row else row * columns + column]?).map fun name =>
        (starts.getD column 0, name)
    (line.foldl (fun (state : ByteText × Nat) (start, name) =>
      (state.1 ++ indentation start state.2 start ++ name, start + name.length)) ("", 0)).1 ++ "\n"

/-- Names with commas between them, in lines of a width. -/
def inSeries (names : List ByteText) (width : Nat) : ByteText :=
  let step (state : ByteText × Nat × Bool) (name : ByteText) : ByteText × Nat × Bool :=
    let (text, column, isFirst) := state
    if isFirst then (name, name.length, false)
    else if column + name.length + 2 < width then
      (text ++ ", " ++ name, column + name.length + 2, false)
    else (text ++ ",\n" ++ name, name.length, false)
  let (text, _, isFirst) := names.foldl step ("", 0, true)
  if isFirst then "" else text ++ "\n"

/-! ### Entries -/

/-- An entry of a listing. -/
structure Listed where
  /-- The name as it is shown. -/
  name : ByteText
  /-- What stands there. -/
  node : DiskNode
  /-- Where it stands. -/
  address : Address

namespace Listed

/-- The size of a node. -/
def size (e : Listed) : Nat :=
  match e.node with
  | .file f => f.content.length
  | .directory _ => 4096
  | .link target => target.utf8ByteSize
  | _ => 0

/-- The mark behind a name that tells what stands there. -/
def mark (onlyDirectories : Bool) (e : Listed) : ByteText :=
  match e.node with
  | .directory _ => "/"
  | .link _ => if onlyDirectories then "" else "@"
  | .file f => if !onlyDirectories && f.mode.bits &&& 0o111 != 0 then "*" else ""
  | .program _ => if onlyDirectories then "" else "*"
  | .device _ => ""

/-- The ending of a name. -/
def ending (e : Listed) : List Char :=
  let reversed := e.name.toList.reverse
  let last := reversed.takeWhile (· != '.')
  if last.length = reversed.length then [] else '.' :: last.reverse

end Listed

/-- A text in a column of a width, at its right end. -/
def rightAligned (width : Nat) (text : ByteText) : ByteText :=
  "".pushn ' ' (width - text.length) ++ text

/-- The format of times in a long listing: one for times of the last half year and one for others.
-/
structure TimeFormats where
  /-- The format for times of the last half year. -/
  recent : ByteText
  /-- The format for other times. -/
  other : ByteText

namespace TimeFormats

/-- The formats that a style names. -/
def ofStyle? (style : ByteText) : Option TimeFormats :=
  match style.toList with
  | '+' :: format =>
    match (String.ofList format).splitOn "\n" with
    | [other, recent] => some ⟨recent, other⟩
    | _ => some ⟨String.ofList format, String.ofList format⟩
  | _ =>
    match style with
    | "full-iso" => some ⟨"%Y-%m-%d %H:%M:%S.%N %z", "%Y-%m-%d %H:%M:%S.%N %z"⟩
    | "long-iso" => some ⟨"%Y-%m-%d %H:%M", "%Y-%m-%d %H:%M"⟩
    | "iso" => some ⟨"%m-%d %H:%M", "%Y-%m-%d "⟩
    | "locale" => some ⟨"%b %e %H:%M", "%b %e  %Y"⟩
    | _ => none

/-- The formats that options ask for. -/
def ofOptions (o : FoundOptions) : TimeFormats :=
  (ofStyle? ((o.value? '6').getD "locale")).getD ⟨"%b %e %H:%M", "%b %e  %Y"⟩

/-- The text of a time. -/
def shown (f : TimeFormats) (now time : Nat) : ByteText :=
  let isRecent := decide (now / 1000000000 < time / 1000000000 + 15778476) && decide (time ≤ now)
  (Moment.ofNanos time).inFormat (if isRecent then f.recent else f.other)

end TimeFormats

/-- The number of names that a node has. -/
def nameCount (s : Session) (e : Listed) : Nat :=
  match e.node with
  | .file f =>
    max 1 (s.disk.nodes.filter fun known =>
      match known.2 with
      | .file g => g.identity == f.identity
      | _ => false).length
  | .directory _ =>
    2 + ((s.disk.inside e.address).filter fun known =>
      match known.2 with
      | .directory _ => true
      | _ => false).length
  | _ => 1

/-- The number of blocks of 1024 bytes that a node takes. -/
def blocksOf (e : Listed) : Nat :=
  match e.node with
  | .file f => (f.content.length + 4095) / 4096 * 4
  | .directory _ => 4
  | _ => 0

/-- A size with a letter for its power. -/
def readableSize (n : Nat) : ByteText :=
  let rec go : (fuel : Nat) → (letters : List Char) → (tenths : Nat) → ByteText
    | 0, _, tenths => Nat.repr (tenths / 10)
    | _ + 1, [], tenths => Nat.repr (tenths / 10)
    | fuel + 1, letter :: letters, tenths =>
      if tenths < 10240 then
        if tenths < 100 then
          Nat.repr (tenths / 10) ++ "." ++ Nat.repr (tenths % 10) ++ letter.toString
        else Nat.repr ((tenths + 9) / 10) ++ letter.toString
      else go fuel letters ((tenths + 1023) / 1024)
  if n < 1024 then Nat.repr n
  else go 7 ['K', 'M', 'G', 'T', 'P', 'E'] ((n * 10 + 1023) / 1024)

/-- The lines of a long listing. -/
def longLines (s : Session) (o : FoundOptions) (entries : List Listed) : List ByteText :=
  let owner := if o.has 'n' then "1000" else "user"
  let times := TimeFormats.ofOptions o
  let size (e : Listed) : ByteText :=
    if o.has 'h' then readableSize e.size else Nat.repr e.size
  let countWidth := (entries.map fun e => (Nat.repr (nameCount s e)).length).foldl max 1
  let sizeWidth := (entries.map fun e => (size e).length).foldl max 1
  entries.map fun e =>
    let target := match e.node with
      | .link target => " -> " ++ .ofText target
      | _ => ""
    (kindLetter e.node).toString ++ modeLetters (modeOf e.node).bits ++ " " ++
      rightAligned countWidth (Nat.repr (nameCount s e)) ++ " " ++
      (if o.has 'g' then "" else owner ++ " ") ++
      (if o.has 'o' || o.has 'G' then "" else owner ++ " ") ++
      rightAligned sizeWidth (size e) ++ " " ++ times.shown s.disk.clock (timeOf e.node) ++ " " ++
      e.name ++ target

/-- A name in the style that options ask for. -/
def styledName (o : FoundOptions) (name : ByteText) : ByteText :=
  match o.last? ['Q', 'b', 'N', '2'] with
  | some 'Q' => doubled name
  | some 'b' =>
    String.join (name.toList.map fun c =>
      if c = ' ' then "\\ " else if c = '\\' then "\\\\" else if c = '\n' then "\\n"
      else if isPrintable c then c.toString else "\\" ++ octalDigits c)
  | some '2' =>
    match o.value? '2' with
    | some "c" => doubled name
    | some "shell" => shownName name
    | some "shell-always" => quotedName name
    | _ => name
  | _ => if o.has 'q' then String.ofList (name.toList.map fun c =>
      if isPrintable c then c else '?') else name
where
  /-- A name between double quotes. -/
  doubled (name : ByteText) : ByteText :=
    "\"" ++ String.join (name.toList.map fun c =>
      if c = '"' then "\\\"" else if c = '\\' then "\\\\" else if c = '\n' then "\\n"
      else if isPrintable c then c.toString else "\\" ++ octalDigits c) ++ "\""

/-- Sort entries as options ask for. -/
def sortedEntries (o : FoundOptions) (entries : List Listed) : List Listed :=
  let byName (a b : Listed) : Ordering := compareChars a.name.toList b.name.toList
  let order (a b : Listed) : Ordering :=
    match o.last? ['t', 'S', 'X', 'v', 'U', 'f'] with
    | some 't' => (compare (timeOf b.node) (timeOf a.node)).then (byName a b)
    | some 'S' => (compare b.size a.size).then (byName a b)
    | some 'X' => (compareChars a.ending b.ending).then (byName a b)
    | some 'v' => (compareVersions a.name.toList b.name.toList).then (byName a b)
    | _ => byName a b
  let sorted := entries.mergeSort fun a b => order a b != .gt
  let ordered := if o.has 'r' then sorted.reverse else sorted
  if o.has '3' then
    let isDirectory (e : Listed) : Bool := e.node matches .directory _
    ordered.filter isDirectory ++ ordered.filter (!isDirectory ·)
  else ordered

/-- The text of a listing of entries. -/
def shownEntries (s : Session) (o : FoundOptions) (entries : List Listed) : ByteText :=
  let styled := entries.map fun e =>
    let name := styledName o e.name
    let mark := match o.last? ['F', 'p'] with
      | some 'F' => if o.has 'l' && (e.node matches .link _) then "" else e.mark false
      | some _ => e.mark true
      | none => ""
    let number := if o.has 'i' then
        match e.node with
        | .file f => Nat.repr (f.identity % 1000000) ++ " "
        | _ => Nat.repr (100000 + e.address.length) ++ " "
      else ""
    let blocks := if o.has 's' then Nat.repr (blocksOf e) ++ " " else ""
    { e with name := number ++ blocks ++ name ++ mark }
  let names := styled.map (·.name)
  let width := match (o.value? 'w').bind natural? with
    | some 0 => 1000000
    | some n => n
    | none => 80
  let isLong := ['l', 'n', 'o', 'g'].any o.has
  match o.last? ['1', 'C', 'x', 'm', 'l', 'n', 'o', 'g'] with
  | some 'C' => inColumns names true width
  | some 'x' => inColumns names false width
  | some 'm' => inSeries names width
  | _ =>
    let lines := if isLong then longLines s o styled else names
    String.join (lines.map (· ++ "\n"))

/-! ### Directories -/

/-- List what is inside a directory, and inside the directories there if that is wanted. Gives the
status. -/
def listInside (c : Call) (o : FoundOptions) :
    (fuel : Nat) → (withHeader : Bool) → (isFirst : Bool) → (path : ByteText) → Run Nat
  | 0, _, _, _ => return 1
  | fuel + 1, withHeader, isFirst, path => do
    let s ← get
    match s.locate path with
    | .error fault =>
      c.say ("cannot access " ++ quotedName path ++ ": " ++ fault.reason)
      return 2
    | .ok address =>
      let readable := match s.disk.node? address with
        | some (.directory mode) => mode.mayRead
        | _ => false
      if !readable then
        c.say ("cannot open directory " ++ quotedName path ++ ": Permission denied")
        return 2
      let all := o.has 'a' || o.has 'f'
      let isWanted (name : ByteText) : Bool :=
        (all || o.has 'A' || name.toList.head? != some '.') &&
          !(o.has 'B' && name.endsWith "~") &&
          !((o.values 'I' ++ (if all || o.has 'A' then [] else o.values '4')).any fun glob =>
            (Pattern.ofChars .plain (glob.toList.map fun c => ⟨c, false⟩)).matchesText name.toList)
      let inner := (s.disk.inside address).filterMap fun (name, node) =>
        let name := ByteText.ofText name
        if isWanted name then
          let node := if o.has 'L' then
              (s.node? (pathIn path name)).getD node else node
          some (⟨name, node, address ++ [name.toText]⟩ : Listed)
        else none
      let dots : List Listed := if !all then [] else
        [⟨".", (s.disk.node? address).getD (.directory ⟨0o755⟩), address⟩,
          ⟨"..", (s.disk.node? address.dropLast).getD (.directory ⟨0o755⟩), address.dropLast⟩]
      let entries := sortedEntries o (dots ++ inner)
      let header := if withHeader then
          (if isFirst then "" else "\n") ++ styledName o path ++ ":\n" else ""
      let total := if ['l', 'n', 'o', 'g', 's'].any o.has then
          "total " ++ Nat.repr (Number.total (entries.map blocksOf)) ++ "\n" else ""
      write 1 (header ++ total ++ shownEntries s o entries)
      if !o.has 'R' then return 0
      let mut status := 0
      for e in entries do
        if (e.node matches .directory _) && e.name != "." && e.name != ".." then
          let found ← listInside c o fuel true false (pathIn path e.name)
          status := max status (min found 1)
      return status

/-- List files and what is inside directories. -/
def listDirectories : Tool := fun c =>
  c.withOptions 2 "1abcdfghiklmnopqrstuvw:xABCDFGHI:LNQRST:UXZ"
      [("all", 'a', .never), ("almost-all", 'A', .never), ("escape", 'b', .never),
        ("ignore-backups", 'B', .never), ("directory", 'd', .never), ("classify", 'F', .perhaps),
        ("no-group", 'G', .never), ("human-readable", 'h', .never), ("inode", 'i', .never),
        ("ignore", 'I', .always), ("dereference", 'L', .never),
        ("numeric-uid-gid", 'n', .never), ("literal", 'N', .never), ("quote-name", 'Q', .never),
        ("reverse", 'r', .never), ("recursive", 'R', .never), ("size", 's', .never),
        ("width", 'w', .always), ("color", '5', .perhaps), ("quoting-style", '2', .always),
        ("group-directories-first", '3', .never), ("hide", '4', .always),
        ("full-time", '7', .never), ("time-style", '6', .always)] fun o => do
    let o : FoundOptions :=
      if o.has '7' then { o with options := o.options ++ [('l', none), ('6', some "full-iso")] }
      else o
    if let some style := o.value? '6' then
      if (TimeFormats.ofStyle? style).isNone then
        c.say ("invalid argument " ++ quotedName style ++ " for 'time style'")
        write 2 ("Valid arguments are:\n  - [posix-]full-iso\n  - [posix-]long-iso\n" ++
          "  - [posix-]iso\n  - [posix-]locale\n" ++
          "  - +FORMAT (e.g., +%H:%M) for a 'date'-style format\n")
        return ← c.pointToHelp 2
    let s ← get
    let operands := if o.operands.isEmpty then ["."] else o.operands
    let isLong := ['l', 'n', 'o', 'g'].any o.has
    let mut entries : List Listed := []
    let mut status := 0
    for path in operands do
      -- A link is followed unless the listing tells about links.
      let keepsLinks := (isLong || o.has 'd' || o.has 'F') && !o.has 'L' && !o.has 'H'
      let link? := match s.slot path with
        | .ok (address, false) =>
          match s.disk.node? address with
          | some (.link target) => some (⟨path, .link target, address⟩ : Listed)
          | _ => none
        | _ => none
      match link?, s.locate path, s.node path with
      | some e, located, found =>
        match keepsLinks, located, found with
        | false, .ok address, .ok node => entries := entries ++ [⟨path, node, address⟩]
        | _, _, _ =>
          if o.has 'L' then
            c.say ("cannot access " ++ quotedName path ++ ": No such file or directory")
            status := 2
          else entries := entries ++ [e]
      | none, .ok address, .ok node => entries := entries ++ [⟨path, node, address⟩]
      | none, .error fault, _ =>
        c.say ("cannot access " ++ quotedName path ++ ": " ++ fault.reason)
        status := 2
      | none, _, .error fault =>
        c.say ("cannot access " ++ quotedName path ++ ": " ++ fault.reason)
        status := 2
    let isDirectory (e : Listed) : Bool := (e.node matches .directory _) && !o.has 'd'
    -- What a link leads to is shown under the name of the link.
    let files := sortedEntries o (entries.filter (!isDirectory ·))
    let directories := sortedEntries o (entries.filter isDirectory)
    if !files.isEmpty then write 1 (shownEntries s o files)
    let withHeader := 1 < operands.length || o.has 'R'
    let mut isFirst := files.isEmpty
    for e in directories do
      let found ← listInside c o Disk.maxNameLength withHeader isFirst e.name
      status := max status found
      isFirst := false
    return status

/-! ### Links and paths -/

/-- The path that a path comes to when all links are followed. The last part need not be there, or
nothing need be, or everything. -/
def realPath (s : Session) (mode : Char) (path : ByteText) : Except FileFault ByteText :=
  let shown (address : Address) : ByteText := .ofText (Disk.shownPath address)
  match s.locate path, mode with
  | .ok address, _ => .ok (shown address)
  | .error fault, 'e' => .error fault
  | .error _, 'm' =>
    let steps := Disk.steps path.toText
    let rec go : Address → List String → Address
      | address, [] => address
      | address, "" :: rest => go address rest
      | address, "." :: rest => go address rest
      | address, ".." :: rest => go address.dropLast rest
      | address, name :: rest => go (s.disk.enter address name) rest
    .ok (shown (go (Disk.origin s.directory path.toText) steps))
  | .error fault, _ =>
    -- A link that leads to a missing file is followed as well.
    let trimmed := String.ofList (path.toList.reverse.dropWhile (· == '/')).reverse
    match s.disk.reach .file s.directory ⟨ByteText.toText trimmed⟩ with
    | .ok address => .ok (shown address)
    | .error _ => .error fault

/-- Show what links lead to. -/
def showTargets : Tool := fun c =>
  c.withOptions 1 "femnqsvz"
      [("canonicalize", 'f', .never), ("canonicalize-existing", 'e', .never),
        ("canonicalize-missing", 'm', .never), ("no-newline", 'n', .never),
        ("quiet", 'q', .never), ("silent", 's', .never), ("verbose", 'v', .never),
        ("zero", 'z', .never)] fun o => do
    if o.operands.isEmpty then return ← c.misused 1 "missing operand"
    let mut fine := true
    let ending := if o.has 'z' then "\x00"
      else if o.has 'n' && o.operands.length = 1 then "" else "\n"
    for path in o.operands do
      let s ← get
      let found : Except FileFault ByteText :=
        match o.last? ['f', 'e', 'm'] with
        | some mode => realPath s mode path
        | none =>
          match s.slot path with
          | .error fault => .error fault
          | .ok (address, _) =>
            match s.disk.node? address with
            | some (.link target) => .ok (.ofText target)
            | some _ => .error .invalidArgument
            | none => .error .missing
      match found with
      | .ok text => write 1 (text ++ ending)
      | .error fault =>
        fine := false
        if o.has 'v' then c.say (shownName path ++ ": " ++ fault.reason)
    return statusOf fine

/-- Show the paths that paths come to when all links are followed. -/
def showRealPaths : Tool := fun c =>
  c.withOptions 1 "emqsLPz"
      [("canonicalize-existing", 'e', .never), ("canonicalize-missing", 'm', .never),
        ("quiet", 'q', .never), ("strip", 's', .never), ("no-symlinks", 's', .never),
        ("relative-to", 'r', .always), ("relative-base", 'b', .always),
        ("zero", 'z', .never)] fun o => do
    if o.operands.isEmpty then return ← c.misused 1 "missing operand"
    let mut fine := true
    for path in o.operands do
      let s ← get
      match realPath s ((o.last? ['e', 'm']).getD 'f') path with
      | .ok text =>
        let shown := match o.value? 'r' with
          | none => text
          | some base =>
            match s.locate base with
            | .ok start =>
              let goal := (Disk.steps text.toText).filter (· != "")
              let between := Disk.pathBetween start goal
              if between = "" then "." else .ofText between
            | .error _ => text
        write 1 (shown ++ if o.has 'z' then "\x00" else "\n")
      | .error fault =>
        fine := false
        if !o.has 'q' then c.say (shownName path ++ ": " ++ fault.reason)
    return statusOf fine

/-- Show the last parts of paths. -/
def showLastParts : Tool := fun c =>
  c.withLeadingOptions 1 "as:z"
      [("multiple", 'a', .never), ("suffix", 's', .always), ("zero", 'z', .never)] fun o => do
    let ending := if o.has 'z' then "\x00" else "\n"
    let shown (suffix path : ByteText) : ByteText :=
      let name := lastPart path
      let name := if !suffix.isEmpty && name.endsWith suffix && name != suffix then
          String.ofList (name.toList.take (name.length - suffix.length)) else name
      name ++ ending
    match o.operands, o.has 'a' || o.has 's' with
    | [], _ => c.misused 1 "missing operand"
    | paths, true =>
      write 1 (String.join (paths.map (shown ((o.value? 's').getD ""))))
      return 0
    | [path], false =>
      write 1 (shown "" path)
      return 0
    | [path, suffix], false =>
      write 1 (shown suffix path)
      return 0
    | _ :: _ :: extra :: _, false => c.misused 1 ("extra operand " ++ quotedName extra)

/-- Show paths without their last parts. -/
def showParents : Tool := fun c =>
  c.withOptions 1 "z" [("zero", 'z', .never)] fun o => do
    if o.operands.isEmpty then return ← c.misused 1 "missing operand"
    let ending := if o.has 'z' then "\x00" else "\n"
    write 1 (String.join (o.operands.map (withoutLastPart · ++ ending)))
    return 0

/-- Show what is known about files, in a format. -/
def showStatus : Tool := fun c =>
  c.withOptions 1 "Lfc:t"
      [("dereference", 'L', .never), ("format", 'c', .always), ("printf", 'p', .always),
        ("terse", 't', .never)] fun o => do
    if o.operands.isEmpty then return ← c.misused 1 "missing operand"
    let mut fine := true
    for path in o.operands do
      let s ← get
      let found : Except FileFault Listed := do
        let (address, hasSlash) ← s.slot path
        match s.disk.node? address with
        | some (.link target) =>
          if o.has 'L' || hasSlash then return ⟨path, ← s.node path, ← s.locate path⟩
          else return ⟨path, .link target, address⟩
        | some node =>
          if hasSlash && !(node matches .directory _) then throw .notDirectory
          return ⟨path, node, address⟩
        | none => throw .missing
      match found with
      | .error fault =>
        fine := false
        c.say ("cannot statx " ++ quotedName path ++ ": " ++ fault.reason)
      | .ok e =>
        let mode := (modeOf e.node).bits
        let kind := match e.node with
          | .file f => if f.content.isEmpty then "regular empty file" else "regular file"
          | .directory _ => "directory"
          | .link _ => "symbolic link"
          | .device _ => "character special file"
          | .program _ => "regular file"
        let arrow := match e.node with
          | .link target => " -> " ++ quotedName (.ofText target)
          | _ => ""
        let seconds := timeOf e.node / 1000000000
        let time := (Moment.ofNanos (timeOf e.node)).inFormat "%Y-%m-%d %H:%M:%S.%N %z"
        let value (letter : Char) : ByteText :=
          match letter with
          | 'n' => path
          | 'N' => quotedName path ++ arrow
          | 's' => Nat.repr e.size
          | 'a' => String.ofList (Nat.toDigits 8 mode)
          | 'A' => (kindLetter e.node).toString ++ modeLetters mode
          | 'F' => kind
          | 'h' => Nat.repr (nameCount s e)
          | 'Y' => Nat.repr seconds
          | 'X' => Nat.repr seconds
          | 'Z' => Nat.repr seconds
          | 'W' => Nat.repr seconds
          | 'x' => time
          | 'y' => time
          | 'z' => time
          | 'w' => time
          | 'b' => Nat.repr (blocksOf e * 2)
          | 'B' => "512"
          | 'o' => "4096"
          | 'u' => "1000"
          | 'g' => "1000"
          | 'U' => "user"
          | 'G' => "user"
          | 'm' => "/"
          | '%' => "%"
          | _ => "?"
        let rec fill (escapes : Bool) : (fuel : Nat) → List Char → ByteText
          | 0, _ => ""
          | _ + 1, [] => ""
          | fuel + 1, '%' :: letter :: rest => value letter ++ fill escapes fuel rest
          | fuel + 1, '\\' :: 'n' :: rest => (if escapes then "\n" else "\\n") ++
              fill escapes fuel rest
          | fuel + 1, '\\' :: 't' :: rest => (if escapes then "\t" else "\\t") ++
              fill escapes fuel rest
          | fuel + 1, c :: rest => c.toString ++ fill escapes fuel rest
        match o.value? 'p', o.value? 'c' with
        | some format, _ => write 1 (fill true (format.length + 1) format.toList)
        | none, some format => write 1 (fill false (format.length + 1) format.toList ++ "\n")
        | none, none =>
          write 1 ("  File: " ++ path ++ arrow ++ "\n  Size: " ++ Nat.repr e.size ++ "\t" ++ kind ++
            "\n")
    return statusOf fine

end DesignAtlas.Shell.Tools
