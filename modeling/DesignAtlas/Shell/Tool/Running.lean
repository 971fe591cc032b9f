import DesignAtlas.Number.Binary
import DesignAtlas.Number.Total
import DesignAtlas.Shell.Format
import DesignAtlas.Shell.Test
import DesignAtlas.Shell.Tool.Place

/-!
# Tools that run programs

Tools that run other programs with another environment, with arguments from the input or for some
time only, and tools that tell or wait.

* `runInEnvironment`, `runWithArguments` and `runForTime` run programs.
* `writeArguments`, `writeFilled` and `testArguments` are the tools that shells have as well.
-/

namespace DesignAtlas.Shell.Tools

open Number

/-- Run a program, and complain in given words if it cannot be started. -/
def runOrComplain (c : Call) (words : List ByteText) (subject : ByteText) : Run Nat := do
  match ← c.run words with
  | .ok ending => return ending.status
  | .error fault =>
    c.say (subject ++ quotedName (words.headD "") ++ ": " ++ fault.reason)
    return if fault matches .missing then 127 else 126

/-! ### Environments -/

/-- Let a variable be in the environment. -/
def putInEnvironment (name : String) (value : ByteText) : Run Unit :=
  modify fun s =>
    s.modifyVariable name fun v => { v with value := .text value, exported := true }

/-- Show the environment. -/
def writeEnvironment (ending : ByteText) : Run Unit := do
  let s ← get
  write 1 (String.join (s.environment.map fun known => known.1 ++ "=" ++ known.2 ++ ending))

/-- The words that a text is split into between quotes and blanks. -/
def splitWords : (fuel : Nat) → List Char → List ByteText
  | 0, _ => []
  | fuel + 1, text =>
    let rec word (quote : Option Char) (taken : List Char) : List Char → List Char × List Char
      | [] => (taken.reverse, [])
      | c :: rest =>
        match quote with
        | some q => if c = q then word none taken rest else word quote (c :: taken) rest
        | none =>
          if c = '\x27' ∨ c = '"' then word (some c) taken rest
          else if isBlank c || c == '\n' then (taken.reverse, c :: rest)
          else word none (c :: taken) rest
    match text.dropWhile fun c => isBlank c || c == '\n' with
    | [] => []
    | text =>
      let (w, rest) := word none [] text
      String.ofList w :: splitWords fuel rest

/-- Run a program in a changed environment, or show the environment. -/
def runInEnvironment : Tool := fun c => do
  -- The text of one option is split into arguments.
  let arguments := match c.arguments with
    | "-S" :: text :: rest => splitWords (text.length + 1) text.toList ++ rest
    | first :: rest =>
      match first.toList with
      | '-' :: 'S' :: text => splitWords (text.length + 1) text ++ rest
      | _ => first :: rest
    | [] => []
  { c with arguments := arguments }.withLeadingOptions 125 "iu:0C:v"
      [("ignore-environment", 'i', .never), ("unset", 'u', .always), ("null", '0', .never),
        ("chdir", 'C', .always), ("debug", 'v', .never)] fun o => do
    let (clears, operands) := match o.operands with
      | "-" :: rest => (true, rest)
      | operands => (o.has 'i', operands)
    if clears then modify Session.withoutEnvironment
    for name in o.values 'u' do
      modify fun (s : Session) => s.forget name
    let isAssignment (word : ByteText) : Bool := word.toList.contains '='
    for word in operands.takeWhile isAssignment do
      let name := word.toList.takeWhile (· != '=')
      -- What is set anew comes last.
      if clears && ((← get).environment.lookup (String.ofList name)).isNone then
        modify fun (s : Session) => s.forget (String.ofList name)
      putInEnvironment (String.ofList name) (String.ofList (word.toList.drop (name.length + 1)))
    match o.value? 'C' with
    | some path =>
      let s ← get
      match s.locate path, s.node path with
      | .ok address, .ok (.directory _) => set { s with directory := address }
      | .ok _, .ok _ =>
        return ← c.fail 125 ("cannot change directory to " ++ quotedName path ++
          ": Not a directory")
      | .error fault, _ =>
        return ← c.fail 125 ("cannot change directory to " ++ quotedName path ++ ": " ++
          fault.reason)
      | _, .error fault =>
        return ← c.fail 125 ("cannot change directory to " ++ quotedName path ++ ": " ++
          fault.reason)
    | none => pure ()
    match operands.dropWhile isAssignment with
    | [] =>
      writeEnvironment (if o.has '0' then "\x00" else "\n")
      return 0
    | words =>
      -- Without a search path, programs are looked up in the usual places.
      if (← get).assigned? "PATH" == none || ((← get).environment.lookup "PATH").isNone then
        modify fun (s : Session) => s.modifyVariable "PATH" fun v =>
          { v with value := .text "/bin:/usr/bin", exported := false }
      runOrComplain c words ""

/-- Show variables of the environment. -/
def writeVariables : Tool := fun c =>
  c.withLeadingOptions 2 "0" [("null", '0', .never)] fun o => do
    let ending := if o.has '0' then "\x00" else "\n"
    if o.operands.isEmpty then
      writeEnvironment ending
      return 0
    let mut fine := true
    for name in o.operands do
      match (← get).environment.lookup name with
      | some value => write 1 (value ++ ending)
      | none => fine := false
    return statusOf fine

/-! ### Arguments from the input -/

/-- The arguments in a text between blanks, with the number of the line that each one stands in.
Quotes and backslashes keep blanks. -/
def inputWords (text : List Char) : Except ByteText (List (ByteText × Nat)) :=
  let rec go : List Char → (word : Option (List Char)) → (quote : Option Char) → (line : Nat) →
      (endsInBlank : Bool) → List (ByteText × Nat) → Except ByteText (List (ByteText × Nat))
    | [], word, quote, line, _, found =>
      match quote with
      | some q =>
        let kind := if q = '"' then "double" else "single"
        .error ("unmatched " ++ kind ++
          " quote; by default quotes are special to xargs unless you use the -0 option")
      | none =>
        .ok ((match word with
          | some w => (String.ofList w.reverse, line) :: found
          | none => found).reverse)
    | c :: rest, word, some q, line, _, found =>
      if c = q then go rest (some (word.getD [])) none line false found
      else if c = '\n' then
        let kind := if q = '"' then "double" else "single"
        .error ("unmatched " ++ kind ++
          " quote; by default quotes are special to xargs unless you use the -0 option")
      else go rest (some (c :: word.getD [])) (some q) line false found
    | '\\' :: c :: rest, word, none, line, _, found =>
      go rest (some (c :: word.getD [])) none line false found
    | c :: rest, word, none, line, endsInBlank, found =>
      if c = '\x27' ∨ c = '"' then go rest (some (word.getD [])) (some c) line false found
      else if isBlank c || c == '\n' then
        let taken := match word with
          | some w => (String.ofList w.reverse, line) :: found
          | none => found
        -- A blank at the end of a line lets it go on in the next one.
        let isEmptyLine := word.isNone && !(found.any (·.2 == line))
        let next := if c = '\n' ∧ !endsInBlank ∧ !isEmptyLine then line + 1 else line
        go rest none none next (c != '\n') taken
      else go rest (some (c :: word.getD [])) none line false found
  go text none none 0 false []

/-- Put a text in the place of another one, wherever it stands. -/
def withReplaced (wanted other : ByteText) (text : ByteText) : ByteText :=
  if wanted.isEmpty then text else other.intercalate (text.splitOn wanted)

/-- How groups of arguments are made for one program after the other. -/
def groupsOf (perCall perLine : Option Nat) (words : List (ByteText × Nat)) :
    List (List ByteText) :=
  match perCall, perLine with
  | some n, _ =>
    let rec chunks : (fuel : Nat) → List ByteText → List (List ByteText)
      | 0, _ => []
      | _ + 1, [] => []
      | fuel + 1, items => items.take n :: chunks fuel (items.drop n)
    chunks (words.length + 1) (words.map (·.1))
  | none, some n =>
    let last := (words.getLast?.map (·.2)).getD 0
    ((List.range (last / n + 1)).map fun i =>
      (words.filter fun w => w.2 / n == i).map (·.1)).filter (!·.isEmpty)
  | none, none => [words.map (·.1)]

/-- Run a program with arguments from the input. -/
def runWithArguments : Tool := fun c =>
  c.withLeadingOptions 1 "0a:d:E:e::I:i::L:l::n:prs:txP:"
      [("null", '0', .never), ("arg-file", 'a', .always), ("delimiter", 'd', .always),
        ("eof", 'e', .perhaps), ("replace", 'i', .perhaps), ("max-lines", 'l', .perhaps),
        ("max-args", 'n', .always), ("interactive", 'p', .never),
        ("no-run-if-empty", 'r', .never), ("max-chars", 's', .always), ("verbose", 't', .never),
        ("exit", 'x', .never), ("max-procs", 'P', .always)] fun o => do
    let number (letter : Char) : Except ByteText (Option Nat) :=
      match o.value? letter with
      | none => .ok none
      | some text =>
        match (natural? text).filter fun _ => !text.isEmpty with
        | none =>
          .error ("invalid number \"" ++ text ++ "\" for -" ++ letter.toString ++ " option")
        | some 0 =>
          if letter = 'P' then .ok (some 0)
          else .error ("value 0 for -" ++ letter.toString ++ " option should be >= 1")
        | some n => .ok (some n)
    match number 'n', number 'L' with
    | .error message, _ => c.misused 1 message
    | _, .error message => c.misused 1 message
    | .ok perCall, .ok perLine =>
      let mark? :=
        match o.last? ['I', 'i', 'n', 'L'] with
        | some 'I' => o.value? 'I'
        | some 'i' => some ((o.value? 'i').getD "\x7b\x7d")
        | _ => none
      if mark?.isSome && perCall.isSome then
        c.say ("warning: options --max-args and --replace/-I/-i are mutually exclusive, " ++
          "ignoring previous --max-args value")
      match ← contentOf ((o.value? 'a').getD "-") with
      | .error fault =>
        match o.value? 'a' with
        | some path =>
          c.fail 1 ("Cannot open input file " ++ quotedName path ++ ": " ++ fault.reason)
        | none => return 0
      | .ok content =>
        let delimiter? : Option Char :=
          if o.has '0' then some '\x00'
          else (o.value? 'd').map fun text =>
            let e := (escaped .plainFormat text.toList).text
            (e.toList.head?).getD '\x00'
        let words? : Except ByteText (List (ByteText × Nat)) :=
          match delimiter?, mark? with
          | some d, _ =>
            .ok ((splitLines d content.toList).zipIdx.map fun w =>
              (String.ofList (unended d w.1), w.2))
          | none, some _ =>
            -- Every line is an argument, without the blanks in front.
            let lines := (linesOf content).map fun line =>
              (String.ofList (line.toList.dropWhile isBlank))
            (lines.filter (· != "")).mapM fun line => do
              let stripped ← inputWords (line.toList.map fun c => if isBlank c then '\x01' else c)
              let word := (stripped.head?.map (·.1)).getD ""
              return (String.ofList (word.toList.map fun c => if c = '\x01' then ' ' else c), 0)
          | none, none => inputWords content.toList
        match words? with
        | .error message => c.fail 1 message
        | .ok words =>
          let words := match (o.value? 'E').or (o.value? 'e') with
            | some stop => if delimiter?.isSome then words else words.takeWhile (·.1 != stop)
            | none => words
          let base := if o.operands.isEmpty then ["echo"] else o.operands
          let calls : List (List ByteText) :=
            match mark? with
            | some mark => words.map fun w => base.map (withReplaced mark w.1)
            | none =>
              if words.isEmpty then (if o.has 'r' then [] else [base])
              else (groupsOf perCall perLine words).map (base ++ ·)
          -- The programs have nothing to read.
          let (s, stream) := (← get).withStream .nowhere
          set (if (o.value? 'a').isSome then s else s.lead 0 stream)
          let mut status := 0
          for call in calls do
            if status != 0 && status != 123 then break
            if o.has 't' then write 2 (" ".intercalate call ++ "\n")
            match ← c.run call with
            | .error fault =>
              c.say (call.headD "" ++ ": " ++ fault.reason)
              status := if fault matches .missing then 127 else 126
            | .ok (.killed signal) =>
              c.say (call.headD "" ++ ": terminated by signal " ++ Nat.repr signal)
              status := 125
            | .ok (.exited 0) => pure ()
            | .ok (.exited 255) =>
              c.say (call.headD "" ++ ": exited with status 255; aborting")
              status := 124
            | .ok (.exited _) => status := 123
          return status

/-! ### Time -/

/-- A time in nanoseconds that a text names. -/
def durationOf? (text : ByteText) : Option Nat :=
  match ReadNumber.atStart? false text.toList with
  | some (.fraction false n d, rest) =>
    let factor? : Option Nat := match rest with
      | [] => some 1
      | ['s'] => some 1
      | ['m'] => some 60
      | ['h'] => some 3600
      | ['d'] => some 86400
      | _ => none
    factor?.map fun f => n * f * 1000000000 / d
  | some (.infinite false, []) => some (Nat.pow 10 18)
  | _ => none

/-- Wait for some time. -/
def waitForTime : Tool := fun c =>
  c.withOptions 1 "" [] fun o => do
    if o.operands.isEmpty then return ← c.misused 1 "missing operand"
    let wrong := o.operands.filter fun text => (durationOf? text).isNone
    for text in wrong do c.say ("invalid time interval " ++ quotedName text)
    if !wrong.isEmpty then return ← c.pointToHelp 1
    let time := Number.total (o.operands.filterMap durationOf?)
    modify fun s => s.withDisk { s.disk with clock := s.disk.clock + time }
    return 0

/-- Run a program, which is ended if it takes too long. -/
def runForTime : Tool := fun c =>
  c.withLeadingOptions 125 "k:s:v"
      [("kill-after", 'k', .always), ("signal", 's', .always), ("preserve-status", 'p', .never),
        ("foreground", 'f', .never), ("verbose", 'v', .never)] fun o => do
    match o.operands with
    | [] => c.pointToHelp 125
    | [_] => c.pointToHelp 125
    | time :: words =>
      match durationOf? time with
      | none => c.misused 125 ("invalid time interval " ++ quotedName time)
      | some limit =>
        let start := (← get).disk.clock
        let status ← runOrComplain c words "failed to run command "
        let s ← get
        let taken := s.disk.clock - start
        -- Times that only keep contents apart are no time.
        if limit != 0 && limit + 1000000 < taken then
          set (s.withDisk { s.disk with clock := start + limit })
          let signal := ((o.value? 's').bind signalNamed?).getD 15
          if o.has 'p' || signal = 9 then return 128 + signal else return 124
        else return status

/-- Run a program with less care for others. -/
def runNicely : Tool := fun c =>
  c.withLeadingOptions 125 "n:" [("adjustment", 'n', .always)] fun o => do
    match (o.value? 'n').filter fun text => text.toInt?.isNone with
    | some text => c.fail 125 ("invalid adjustment " ++ quotedName text)
    | none =>
      if o.operands.isEmpty then
        write 1 "0\n"
        return 0
      runOrComplain c o.operands ""

/-- Run a program that is not told when the terminal is gone. -/
def runDetached : Tool := fun c => do
  let words := if c.arguments.head? = some "--" then c.arguments.tail else c.arguments
  match words with
  | [] => c.misused 125 "missing operand"
  | words =>
    modify fun s => { s with traps := (1, "") :: s.traps.filter (·.1 != 1) }
    runOrComplain c words "failed to run command "

/-! ### Texts and tests -/

/-- Write a line without an end to it. -/
def writeForever : Tool := fun c => do
  let words := if c.arguments.head? = some "--" then c.arguments.tail else c.arguments
  let line := (if words.isEmpty then "y" else " ".intercalate words) ++ "\n"
  let portion := String.join (List.replicate 1000 line)
  let rec go : (rounds : Nat) → Run Unit
    | 0 => return
    | rounds + 1 => do
      write 1 portion
      if (← get).writeFault.isNone then go rounds
  go 1000000
  return 0

/-- Write the arguments. -/
def writeArguments : Tool := fun c => do
  let isOption (word : ByteText) : Bool :=
    match word.toList with
    | '-' :: letters => !letters.isEmpty && letters.all ['n', 'e', 'E'].contains
    | _ => false
  let options := c.arguments.takeWhile isOption
  let letters := options.flatMap String.toList
  let text := " ".intercalate (c.arguments.drop options.length)
  let lineEnd := if letters.contains 'n' then "" else "\n"
  if (letters.reverse.find? fun l => l == 'e' || l == 'E') == some 'e' then
    let e := escaped .richText text.toList
    write 1 (if e.goesOn then e.text ++ lineEnd else e.text)
  else write 1 (text ++ lineEnd)
  return 0

/-- Write the arguments as a format says. -/
def writeFilled : Tool := fun c => do
  match c.arguments.dropWhile (· == "--") with
  | [] => c.misused 1 "missing operand"
  | format :: arguments =>
    let filled := fillFormat .program format arguments
    for part in filled.parts do
      match part with
      | .text t => write 1 t
      | .complaint t => c.say t
    return filled.status

/-- The wording of what is wrong with the arguments of a test. -/
def testComplaint : TestFault → ByteText
  | .noArgument operator => "missing argument after " ++ quotedName operator
  | .noOperator word => "extra argument " ++ quotedName word
  | .notClosed => "')' expected"
  | .noNumber word => "invalid integer " ++ quotedName word
  | .noUnary word => quotedName word ++ ": unary operator expected"
  | .noBinary word => quotedName word ++ ": binary operator expected"
  | .tooMany => "extra argument"

/-- Find out whether a test holds. -/
def testWords (c : Call) (words : List ByteText) : Run Nat := do
  match { (← get) with dialect := .rich }.testHolds words with
  | .ok holds => return statusOf holds
  | .error (.noUnary word) =>
    -- A word that is no operator stands before an argument that is missing.
    if word.startsWith "-" then c.fail 2 (testComplaint (.noUnary word))
    else c.fail 2 (testComplaint (.noArgument (words.getLast?.getD word)))
  | .error fault => c.fail 2 (testComplaint fault)

/-- Find out whether a test holds. -/
def testArguments : Tool := fun c => testWords c c.arguments

/-- Find out whether a test in brackets holds. -/
def testInBrackets : Tool := fun c =>
  if c.arguments.getLast? = some "]" then testWords c c.arguments.dropLast
  else c.fail 2 "missing ']'"

/-- End with a status. -/
def endWith (status : Nat) : Tool := fun _ => return status

/-- Write the path of the directory. -/
def writeDirectory : Tool := fun c =>
  c.withOptions 1 "LP" [("logical", 'L', .never), ("physical", 'P', .never)] fun o => do
    let s ← get
    let physical := ByteText.ofText (Disk.shownPath s.directory)
    let logical := s.textOf "PWD"
    let isHere := logical.startsWith "/" && (s.locate logical).toOption == some s.directory
    write 1 ((if o.last? ['L', 'P'] == some 'L' && isHere then logical else physical) ++ "\n")
    return 0

/-- Show where programs are found. -/
def writePlaces : Tool := fun c =>
  c.withLeadingOptions 2 "as" [] fun o => do
    let s ← get
    let mut fine := !o.operands.isEmpty
    for name in o.operands do
      let found := (candidatePaths (s.textOf "PATH") name).filter s.isProgram
      let shown := if o.has 'a' then found else found.take 1
      if found.isEmpty then fine := false
      if !o.has 's' then writeLines shown
    return statusOf fine

/-- Make a file or directory with a name at random. -/
def makeTemporary : Tool := fun c =>
  c.withOptions 1 "dqup:tV"
      [("directory", 'd', .never), ("quiet", 'q', .never), ("dry-run", 'u', .never),
        ("tmpdir", 'p', .perhaps), ("suffix", 's', .always)] fun o => do
    let s ← get
    let template := o.operands.headD "tmp.XXXXXXXXXX"
    let chars := template.toList
    let count := (chars.reverse.takeWhile (· == 'X')).length
    if count < 3 then return ← c.fail 1 ("too few X's in template " ++ quotedName template)
    let letters := "abcdefghijklmnopqrstuvwxyzABCDEFGHIJKLMNOPQRSTUVWXYZ0123456789".toList
    let (name, seed) := (List.range count).foldl (fun (state : List Char × Nat) _ =>
      let seed := (state.2 * 1103515245 + 12345) % Nat.pow 2 31
      (letters.getD (seed / 65536 % letters.length) 'x' :: state.1, seed)) ([], s.seed)
    let name := String.ofList (chars.take (chars.length - count) ++ name) ++
      (o.value? 's').getD ""
    let inPlace := o.operands.isEmpty || o.has 't' || o.has 'p'
    let directory := ((o.value? 'p').or (s.assigned? "TMPDIR")).getD "/tmp"
    let path := if inPlace then pathIn directory name else name
    set { s with seed := seed }
    if o.has 'u' then
      write 1 (path ++ "\n")
      return 0
    let kind := if o.has 'd' then "directory" else "file"
    let wrong (fault : FileFault) : Run Nat := do
      let shown := if inPlace then pathIn directory template else template
      if !o.has 'q' then
        c.say ("failed to create " ++ kind ++ " via template " ++ quotedName shown ++ ": " ++
          fault.reason)
      return 1
    let s ← get
    if o.has 'd' then
      match s.makeDirectory path ⟨0o700⟩ with
      | .error fault => wrong fault
      | .ok s =>
        set s
        write 1 (path ++ "\n")
        return 0
    else
      match ← putContent path false "" with
      | .error fault => wrong fault
      | .ok () =>
        let s ← get
        match s.locate path with
        | .ok address => set (s.withDisk (s.disk.setMode address ⟨0o600⟩))
        | .error _ => pure ()
        write 1 (path ++ "\n")
        return 0

end DesignAtlas.Shell.Tools
