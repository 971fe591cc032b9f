import DesignAtlas.Shell.Jobs
import DesignAtlas.Shell.Tool.Table

/-!
# Programs

How programs are run: scripts with and without a line that names their interpreter, the tools of the
system, and shells on a command line, on a file or on their input. A program that cannot be found
has status 127, one that cannot be executed has status 126.

* `Executor.startProgram` starts a program in the process of the shell that calls for it.
* `Executor.runShell` runs a shell with its arguments.
-/

namespace DesignAtlas.Shell

open Text

/-- The dialect of a shell of a given name. -/
def dialectOf? (name : String) : Option Dialect :=
  if name = "sh" ∨ name = "dash" then some .plain
  else if name = "bash" ∨ name = "rbash" then some .rich
  else none

/-! ### Options of shells -/

/-- How a shell is to be started. -/
structure Start where
  /-- The options that are switched on or off. -/
  switches : List (Bool × Char)
  /-- Whether a command line is given. -/
  hasLine : Bool
  /-- Whether the commands are read from the input. -/
  fromInput : Bool
  /-- The words behind the options. -/
  words : List ByteText

namespace Start

/-- The letters of the options that are on. -/
def options (start : Start) : List Char :=
  start.switches.foldl (fun on switch =>
    if switch.1 then on.filter (· != switch.2) ++ [switch.2]
    else on.filter (· != switch.2)) []

/-- Read one letter of options, with the words that are left. A message says what is wrong. -/
def readLetter (d : Dialect) (on : Bool) (state : Start × List ByteText) (letter : Char) :
    Except ByteText (Start × List ByteText) :=
  let (start, rest) := state
  let switch (on : Bool) (letter : Char) : Start :=
    { start with switches := start.switches ++ [(on, letter)] }
  if letter = 'c' ∧ on then .ok ({ start with hasLine := true }, rest)
  else if letter = 'l' ∨ (d = .rich ∧ letter = 'O') then .ok (start, rest)
  else if letter = 'o' then
    match rest with
    | [] => .ok (start, [])
    | name :: rest =>
      match (optionNames d).lookup name with
      | some letter => .ok (switch on letter, rest)
      | none =>
        .error (if d = .plain then "Illegal option -o " ++ name
          else name ++ ": invalid option name")
  else if letter = 's' ∧ on then .ok ({ switch true 's' with fromInput := true }, rest)
  else if (optionNames d).any fun known => known.2 == letter && !letter.isDigit then
    .ok (switch on letter, rest)
  else
    .error (if d = .plain then "Illegal option -" ++ letter.toString
      else "-" ++ letter.toString ++ ": invalid option")

/-- Read the options in front of the arguments of a shell. A message says what is wrong with them.
-/
def read (d : Dialect) : (fuel : Nat) → List ByteText → Start → Except ByteText Start
  | 0, words, start => .ok { start with words := words }
  | _ + 1, [], start => .ok start
  | fuel + 1, first :: rest, start =>
    match first.toList with
    | ['-'] => .ok { start with words := rest }
    | ['-', '-'] => .ok { start with words := rest }
    | '-' :: '-' :: long =>
      match d with
      | .plain => .error "Illegal option --"
      | .rich =>
        if ["norc", "noprofile", "posix", "login", "verbose"].contains (String.ofList long) then
          read d fuel rest start
        else .error (first ++ ": invalid option")
    | sign :: letter :: letters =>
      if sign ≠ '-' ∧ sign ≠ '+' then .ok { start with words := first :: rest }
      else do
        let (start, rest) ← (letter :: letters).foldlM (readLetter d (sign == '-')) (start, rest)
        read d fuel rest start
    | _ => .ok { start with words := first :: rest }

end Start

namespace Executor

variable (e : Executor)

/-! ### Scripts -/

/-- Carry out the input line by line. What is read is not there for the commands any more. -/
def runInputLines : (rounds : Nat) → (line : Nat) → Run Unit
  | 0, _ => throw .exhausted
  | rounds + 1, line => do
    let s ← get
    match s.unread 0 with
    | .error _ => return
    | .ok bytes =>
      let text := scriptText bytes
      if text.isEmpty then return
      match ← nextLine none (s.sourceOf line text) with
      | none => return
      | some (c?, rest) =>
        modify fun s => s.consume 0 (text.length - rest.text.length)
        match c? with
        | some c => e.runLine false c
        | none => pure ()
        runInputLines rounds rest.line

/-- Run a script of a name on arguments, to its end. -/
def runScript (d : Dialect) (name : ByteText) (arguments : List ByteText) (content : List UInt8) :
    Run Nat := do
  let setting := (← get).freshSetting d name arguments
  modify fun s => { s with toSetting := setting }
  e.toItsEnd (e.runLines false none none roundLimit ((← get).sourceOf 1 (scriptText content)))
  return (← get).status

/-! ### Shells -/

/-- Run a shell on a command line, on a file or on its input. -/
def runShell (d : Dialect) (name : ByteText) (arguments : List ByteText) : Run Nat := do
  let setting := (← get).freshSetting d name []
  modify fun s => { s with toSetting := setting }
  let place := if d = .plain then name ++ ": 0: " else name ++ ": "
  let refuse (status : Nat) (text : ByteText) : Run Nat := do
    write 2 (place ++ text ++ "\n")
    return status
  match Start.read d (arguments.length + 1) arguments ⟨[], false, false, []⟩ with
  | .error message => refuse 2 message
  | .ok start =>
    let run (options : List Char) (script : ByteText) (arguments : List ByteText)
        (work : Run Unit) : Run Nat := do
      modify fun s => { s with script := script, arguments := arguments, options := options }
      e.toItsEnd work
      return (← get).status
    match start.hasLine, start.fromInput, start.words with
    | true, _, [] =>
      refuse 2 (if d = .plain then "-c requires an argument"
        else "-c: option requires an argument")
    | true, _, line :: words =>
      let options := if d = .plain then start.options else start.options ++ ['c']
      let source := (← get).sourceOf 1 line.toList
      run options (words.headD name) words.tail
        (e.runLines false (some "-c") none roundLimit source)
    | false, false, path :: words =>
      let script (content : List UInt8) : Run Nat := do
        let source := (← get).sourceOf 1 (scriptText content)
        run start.options path words (e.runLines false none none roundLimit source)
      match ← readFile path, d with
      | .ok text, _ => script text.toBytes
      | .error fault, .plain =>
        match (← get).openStream .read path with
        | .ok _ => script []
        | .error _ => refuse 2 (openingComplaint .plain .read path fault)
      | .error fault, .rich =>
        refuse (if fault = .missing then 127 else 126) (path ++ ": " ++ fault.reason)
    | false, _, words =>
      let options := start.options.filter (· != 's') ++ ['s']
      run options name words (e.runInputLines roundLimit 1)

/-! ### Programs -/

/-- What a tool says when its output cannot be written, and the status that it ends with then. -/
def writeFailure (program : String) (name : ByteText) (fault : FileFault) (status : Nat) :
    Nat × List ByteText :=
  let isClosed := fault = .system 9
  let usual := "write error: " ++ fault.reason
  let output := "'standard output': " ++ fault.reason
  let (status, lines) : Nat × List ByteText :=
    match program with
    | "sort" => (2, ["fflush failed: " ++ output, "write error"])
    | "cat" => (1, [if isClosed then "standard output: " ++ fault.reason else usual])
    | "sed" => (4, ["couldn't " ++ (if isClosed then "close" else "flush") ++ " stdout: " ++
        fault.reason])
    | "diff" => (2, ["standard output: " ++ fault.reason])
    | "cmp" => if isClosed then (status, []) else (2, ["standard output: " ++ fault.reason])
    | "find" => (1, [output, if isClosed then usual else "write error"])
    | "tee" => (1, [output])
    | "rev" => if isClosed then (status, []) else (1, [usual])
    | "expr" => (3, [usual])
    | program =>
      if program = "awk" ∨ program = "mawk" then
        (2, ["close failed on file \"/dev/stdout\" (" ++ fault.reason ++ ")"])
      else if ["ls", "dir", "vdir", "grep", "egrep", "fgrep", "printenv"].contains program then
        (2, [usual])
      else if ["env", "nice", "nohup", "timeout"].contains program then (125, [usual])
      else (max status 1, [usual])
  (status, lines.map fun line => name ++ ": " ++ line ++ "\n")

/-- Run a program of the system. -/
def runInstalled (started : Execution) : Run Nat := do
  match dialectOf? started.program, tools.lookup started.program with
  | some d, _ => e.runShell d started.name started.arguments
  | none, some tool =>
    let run (words : List ByteText) : Run (Except FileFault Ending) := do
      let s ← get
      match s.spawned true (s.textOf "PATH") (words.headD "") words.tail with
      | .error fault => return .error fault
      | .ok started => return .ok (← inProcess do finish (← e.program started))
    modify fun s => { s with speaker := none, writeFault := none }
    let status ← tool ⟨started.name, started.arguments, run⟩
    match (← get).writeFault with
    | some fault =>
      modify fun s => { s with writeFault := none }
      let (status, lines) := writeFailure started.program started.name fault status
      write 2 (String.join lines)
      return status
    | none => return status
  | none, none =>
    write 2 (started.name ++ ": not available\n")
    return 127

/-- Say that a program cannot be started, as the plain shell does it, and end with a status. -/
def refusePlain (status : Nat) (name : ByteText) (fault : FileFault) : Run Nat := do
  report (name ++ ": " ++ plainStartReason fault)
  return status

/-- Start a program in the plain shell. -/
def startPlain (searchPath name : ByteText) (arguments : List ByteText) : Run Nat := do
  let s ← get
  let paths := candidatePaths searchPath name
  let found := if isPath name then paths else paths.dropWhile (!s.isProgram ·)
  if found.isEmpty then refusePlain 127 name (s.searchFault paths)
  else
    match s.plainExecution name arguments .missing found with
    | .error fault => refusePlain (plainStartStatus fault) name fault
    | .ok started => e.program started

/-- Say that a file cannot be executed, as the rich shell does it, and end with a status. -/
def refuseRich (path : ByteText) (fault : FileFault) : Run Nat := do
  let s ← get
  let plainStatus := if fault = .missing then 127 else 126
  let interpreter? := (s.content path).toOption.bind interpreterLine?
  if s.isDirectory path then
    say (path ++ ": Is a directory")
    return plainStatus
  else if !s.isProgram path then
    say (path ++ ": " ++ fault.reason)
    return plainStatus
  else if fault = .missing then
    say (path ++ ": cannot execute: required file not found")
    return plainStatus
  else
    match interpreter? with
    | some (interpreter, _) =>
      write 2 (s.script ++ ": " ++ path ++ ": " ++ interpreter ++ ": bad interpreter: " ++
        fault.reason ++ "\n")
      return 126
    | none =>
      say (path ++ ": " ++ fault.reason)
      return 126

/-- Start a program at a path in the rich shell, under a name. -/
def startRichAt (path name : ByteText) (arguments : List ByteText) : Run Nat := do
  let s ← get
  match s.execution maxInterpreters path name arguments with
  | .ok started => e.program started
  | .error fault =>
    if fault != noProgram then refuseRich path fault
    else
      match s.content path with
      | .error fault =>
        say (path ++ ": " ++ fault.reason)
        return 126
      | .ok content =>
        if isBinary content then
          say (path ++ ": cannot execute binary file: Exec format error")
          return 126
        else e.runScript .rich path arguments content

/-- Start a program in the rich shell. -/
def startRich (searchPath name : ByteText) (arguments : List ByteText) : Run Nat := do
  let s ← get
  let path? := if isPath name then some name
    else (s.programPath? searchPath name).or (s.filePath? searchPath name)
  match path? with
  | some path => e.startRichAt path name arguments
  | none =>
    say (name ++ ": command not found")
    return 127

/-- Start a program in the process of the shell that calls for it. -/
def startProgram (searchPath : ByteText) (words : List ByteText) : Run Nat := do
  match words, (← get).dialect with
  | [], _ => return 0
  | name :: arguments, .plain => e.startPlain searchPath name arguments
  | name :: arguments, .rich => e.startRich searchPath name arguments

/-- Run a program in a process of its own. The jobs work in the meantime. -/
def runProgramApart (searchPath : ByteText) (words : List ByteText) : Run Unit := do
  e.runDueJobs
  let ending ← inProcess do finish (← e.startProgram searchPath words)
  e.runDueJobs
  let name := words.headD ""
  if !isPath name && ((← get).programPath? searchPath name).isSome then
    modify fun s => { s with tracked := name :: s.tracked.filter (· != name) }
  sayEnding ending
  finish ending.status

end Executor

end DesignAtlas.Shell
