import DesignAtlas.Shell.Tool.Files
import DesignAtlas.Shell.Tool.FindQuery
import DesignAtlas.Shell.Tool.Running

/-!
# Looking for files

The tool that goes through directories and looks for files that a query asks for.

* `Finder` is what it has come across so far.
* `findFiles` goes through directories.
-/

namespace DesignAtlas.Shell.Tools

/-- A file on the way through directories. -/
structure Visited where
  /-- The path. -/
  path : ByteText
  /-- The path that the search started with. -/
  start : ByteText
  /-- The number of directories between them. -/
  depth : Nat
  /-- What stands there and where. -/
  entry : Listed

/-- What has come up on the way through directories. -/
structure Finder where
  /-- Whether everything could be done. -/
  isFine : Bool
  /-- Whether the search is over. -/
  isOver : Bool
  /-- Whether the directory is not to be looked into. -/
  prunes : Bool
  /-- The paths that programs are to be run for, by the numbers of the groups. -/
  groups : List (Nat × List ByteText × List ByteText)

/-- Work on the way through directories. -/
abbrev Finding (α : Type) : Type :=
  StateT Finder Run α

namespace Finder

/-- The path of a file without the path that the search started with. -/
def inner (v : Visited) : ByteText :=
  let rest := v.path.toList.drop v.start.length
  String.ofList (if rest.head? = some '/' then rest.tail else rest)

/-- The path of the directory that a file stands in. -/
def parentOf (path : ByteText) : ByteText :=
  let chars := path.toList.reverse.dropWhile (· == '/')
  let rest := chars.dropWhile (· != '/')
  if rest.isEmpty then "." else String.ofList (rest.drop 1).reverse

/-- The letter of the kind of a node. -/
def letterOf (node : DiskNode) : Char :=
  match node with
  | .file _ => 'f'
  | .program _ => 'f'
  | other => kindLetter other

/-- A text in which a format is filled. -/
def filled (s : Session) (v : Visited) : (fuel : Nat) → List Char → ByteText
  | 0, _ => ""
  | _ + 1, [] => ""
  | fuel + 1, '%' :: rest =>
    let flags := rest.takeWhile fun c => c == '-' || c == '0' || c.isDigit
    let width := (natural? (String.ofList (flags.dropWhile fun c => c == '-'))).getD 0
    let padded (text : ByteText) : ByteText :=
      if flags.head? = some '-' then text.pushn ' ' (width - text.length)
      else rightAligned width text
    match rest.drop flags.length with
    | [] => "%"
    | letter :: behind =>
      let seconds := timeOf v.entry.node / 1000000000
      let text? : Option ByteText := match letter with
        | '%' => some "%"
        | 'p' => some v.path
        | 'f' => some (lastPart v.path)
        | 'h' => some (parentOf v.path)
        | 'P' => some (inner v)
        | 'H' => some v.start
        | 'd' => some (Nat.repr v.depth)
        | 's' => some (Nat.repr v.entry.size)
        | 'b' => some (Nat.repr (2 * blocksOf v.entry))
        | 'k' => some (Nat.repr (blocksOf v.entry))
        | 'y' => some (letterOf v.entry.node).toString
        | 'Y' => some (((s.node v.path).toOption.map letterOf).getD 'N').toString
        | 'm' => some (String.ofList (Nat.toDigits 8 (modeOf v.entry.node).bits))
        | 'M' => some ((kindLetter v.entry.node).toString ++ modeLetters (modeOf v.entry.node).bits)
        | 'n' => some (Nat.repr (nameCount s v.entry))
        | 'l' => some (match v.entry.node with
          | .link target => .ofText target
          | _ => "")
        | 'u' => some "user"
        | 'g' => some "user"
        | 'U' => some "1000"
        | 'G' => some "1000"
        | _ => none
      match letter, behind, text? with
      | 'T', '@' :: behind, _ =>
        padded (Nat.repr seconds ++ ".0000000000") ++ filled s v fuel behind
      | letter, behind, none => "%" ++ letter.toString ++ filled s v fuel behind
      | _, behind, some text => padded text ++ filled s v fuel behind
  | _ + 1, '\\' :: 'c' :: _ => ""
  | fuel + 1, '\\' :: c :: rest =>
    let letters : List (Char × Char) :=
      [('n', '\n'), ('t', '\t'), ('0', '\x00'), ('\\', '\\'), ('a', '\x07'), ('b', '\x08'),
        ('f', '\x0c'), ('r', '\r'), ('v', '\x0b')]
    match letters.lookup c with
    | some d => d.toString ++ filled s v fuel rest
    | none => "\\" ++ c.toString ++ filled s v fuel rest
  | fuel + 1, c :: rest => c.toString ++ filled s v fuel rest

/-- Whether a pattern matches a text, whatever the case of letters if that does not count. -/
def fits (ignoresCase : Bool) (p : Pattern) (text : ByteText) : Bool :=
  p.matchesText (if ignoresCase then text.toList.map Char.toLower else text.toList)

/-- Whether a condition holds for a file. What is done with files is left to others. -/
def holds (s : Session) (v : Visited) : FindStep → Bool
  | .constant holds => holds
  | .name ignoresCase p => fits ignoresCase p (lastPart v.path)
  | .path ignoresCase p => fits ignoresCase p v.path
  | .target ignoresCase p =>
    match v.entry.node with
    | .link target => fits ignoresCase p (.ofText target)
    | _ => false
  | .expression ignoresCase r =>
    let subject : Regex.Subject := ⟨v.path.toList.toArray, ignoresCase, true, false⟩
    (r.endsAt subject (r.fuelFor subject) 0 []).any (·.1 == subject.text.size)
  | .kind letters => letters.contains (letterOf v.entry.node)
  | .size amount unit => amount.holds ((v.entry.size + unit - 1) / unit)
  | .empty =>
    match v.entry.node with
    | .file f => f.content.isEmpty
    | .directory _ => (s.disk.inside v.entry.address).isEmpty
    | _ => false
  | .newer time => time < timeOf v.entry.node
  | .age amount seconds roundsUp =>
    let passed := (s.disk.clock - timeOf v.entry.node) / 1000000000
    amount.holds ((passed + if roundsUp then seconds - 1 else 0) / seconds)
  | .mode sign bits =>
    let known := (modeOf v.entry.node).bits
    match sign with
    | some '-' => known &&& bits == bits
    | some _ => bits == 0 || known &&& bits != 0
    | none => known == bits
  | .names amount => amount.holds (nameCount s v.entry)
  | .access read write enter =>
    let mode := modeOf ((s.node? v.path).getD v.entry.node)
    (!read || mode.mayRead) && (!write || mode.mayWrite) && (!enter || mode.mayEnter)
  | .same address => v.entry.address == address
  | _ => true

/-- Work of a shell on the way through directories. -/
def session {α : Type} (work : Run α) : Finding α :=
  StateT.lift work

/-- Remember that something could not be done. -/
def fail : Finding Unit :=
  modify fun f => { f with isFine := false }

/-- Run a program, and find out whether it succeeds. -/
def runs (c : Call) (words : List ByteText) : Finding Bool := do
  match ← session (c.run words) with
  | .ok ending => return ending.status == 0
  | .error fault =>
    session (c.say (quotedName (words.headD "") ++ ": " ++ fault.reason))
    return false

/-- Delete a file. -/
def delete (c : Call) (v : Visited) : Finding Bool := do
  if v.path = "." then return true
  match (← session get).removeEntry v.entry.address with
  | .ok s =>
    session (set s)
    return true
  | .error fault =>
    session (c.say ("cannot delete " ++ quotedName v.path ++ ": " ++ fault.reason))
    fail
    return false

/-- Carry a step of a query out, and find out whether it holds. -/
def step (c : Call) (v : Visited) (step : FindStep) : Finding Bool := do
  match step with
  | .show ending =>
    session (write 1 (v.path ++ ending))
    return true
  | .fill format =>
    let s ← session get
    session (write 1 (filled s v (format.length + 1) format))
    return true
  | .run asks words =>
    let question := "< " ++ " ".intercalate (words.take 1) ++ " ... " ++ v.path ++ " > ? "
    if asks then session (write 2 question)
    let goesOn ← if asks then do
        let answer ← session readAnswer
        pure (answer.startsWith "y" || answer.startsWith "Y")
      else pure true
    if goesOn then runs c (words.map (withReplaced "\x7b\x7d" v.path)) else return false
  | .runTogether number words =>
    modify fun f =>
      let known := ((f.groups.lookup number).map (·.2)).getD []
      { f with groups := (f.groups.filter (·.1 != number)) ++ [(number, words, known ++ [v.path])] }
    return true
  | .delete => delete c v
  | .prune =>
    modify fun f => { f with prunes := true }
    return true
  | .quit =>
    modify fun f => { f with isOver := true }
    return true
  | other => return holds (← session get) v other

/-- Whether a query holds for a file. What it says is done on the way. -/
def answers (c : Call) (v : Visited) : FindQuery → Finding Bool
  | .step s => do
    if (← get).isOver then return false
    step c v s
  | .not query => do return !(← answers c v query)
  | .both first second => do
    if ← answers c v first then answers c v second else return false
  | .either first second => do
    if ← answers c v first then return true else answers c v second
  | .afterwards first second => do
    let _ ← answers c v first
    answers c v second

/-- What stands at a path, and where. A link can lead on. -/
def lookAt (follows : Bool) (path : ByteText) : Run (Except FileFault Listed) := do
  let s ← get
  let result : Except FileFault Listed := do
    let (address, hasSlash) ← s.slot path
    match s.disk.node? address with
    | none => throw .missing
    | some (.link target) =>
      match s.node path, s.locate path with
      | .ok node, .ok goal =>
        if follows || hasSlash then return ⟨path, node, goal⟩
        else return ⟨path, .link target, address⟩
      | _, _ => return ⟨path, .link target, address⟩
    | some node =>
      if hasSlash && !(node matches .directory _) then throw .notDirectory
      return ⟨path, node, address⟩
  return result

/-- Visit a file and what is inside it. -/
def visit (c : Call) (query : FindQuery) (t : FindSettings) (start : ByteText) :
    (fuel : Nat) → (depth : Nat) → (path : ByteText) → Finding Unit
  | 0, _, _ => return
  | fuel + 1, depth, path => do
    if (← get).isOver then return
    let follows := t.follows || (depth == 0 && t.followsStarts)
    match ← session (lookAt follows path) with
    | .error fault =>
      session (c.say (quotedName path ++ ": " ++ fault.reason))
      fail
    | .ok entry =>
      let v : Visited := ⟨path, start, depth, entry⟩
      let look : Finding Unit := do
        modify fun f => { f with prunes := false }
        if t.least ≤ depth then
          let _ ← answers c v query
      if !t.contentsFirst then look
      let prunes := !t.contentsFirst && (← get).prunes
      match entry.node with
      | .directory mode =>
        if !prunes && t.most.all (depth < ·) && !(← get).isOver then
          if !(mode.mayRead && mode.mayEnter) then
            session (c.say (quotedName path ++ ": Permission denied"))
            fail
          else
            let s ← session get
            for name in (s.disk.inside entry.address).map (ByteText.ofText ·.1) do
              visit c query t start fuel (depth + 1) (inDirectory path name)
      | _ => pure ()
      if t.contentsFirst then look

/-- Run the programs that are run for many files. -/
def runGroups (c : Call) : Finding Unit := do
  for (_, words, paths) in (← get).groups do
    if !(← runs c (words ++ paths)) then fail

end Finder

/-- Look for files. -/
def findFiles : Tool := fun c => do
  let isOption (word : ByteText) : Bool := word == "-H" || word == "-L" || word == "-P"
  let options := c.arguments.takeWhile isOption
  let rest := c.arguments.drop options.length
  let rest := if rest.head? = some "--" then rest.tail else rest
  let places := rest.head?.toList.filter (!startsQuery true ·) ++
    (if rest.head?.any (startsQuery true) then []
      else rest.tail.takeWhile (!startsQuery false ·))
  let last := options.getLast?.getD "-P"
  match FindReader.query (← get) (last == "-L") (last == "-H") (rest.drop places.length) with
  | .error message => c.fail 1 message
  | .ok (query, settings) =>
    let work : Finding Unit := do
      for place in (if places.isEmpty then ["."] else places) do
        Finder.visit c query settings place maxDepth 0 place
      Finder.runGroups c
    let (_, finder) ← work.run ⟨true, false, false, []⟩
    return statusOf finder.isFine

end DesignAtlas.Shell.Tools
