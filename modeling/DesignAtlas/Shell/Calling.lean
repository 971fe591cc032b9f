import DesignAtlas.Shell.Builtins
import DesignAtlas.Shell.Programs

/-!
# Calling

How a simple command is carried out. Its words are expanded, its redirections and assignments take
effect, and then its first word says what is called: a function, a builtin utility, or a program.

* `Executor.runSimple` carries out a simple command.
* `Executor.runUtility` carries out a builtin utility, `Executor.callFunction` a function.
-/

namespace DesignAtlas.Shell

open Text

/-- The greatest number of functions that can be carried out inside one another. The plain dialect
gives up there. In the rich dialect the shell is ended by the system, which has no more memory for
it. -/
def maxCalls : Dialect → Nat
  | .plain => 1000
  | .rich => 6000

/-- Describe names as commands. -/
def describeAll (arguments : List ByteText) : Run Nat := do
  let s ← get
  let (options, names) ← if s.dialect = .plain then pure ([], arguments)
    else optionsOf "tpaPf" arguments
  let mut status := 0
  for name in names do
    let s ← get
    let found := s.description? (builtinNames s.dialect) (s.textOf "PATH") name
    if hasFound 't' options then
      match found with
      | some d => write 1 (d.kind ++ "\n")
      | none => status := 1
    else if hasFound 'p' options || hasFound 'P' options then
      match found with
      | some (.program path _) => write 1 (path ++ "\n")
      | some _ => pure ()
      | none => status := 1
    else if !(← describe (builtinNames s.dialect) (s.textOf "PATH") true name) then
      status := if s.dialect = .plain then 127 else 1
  return status

/-- Give variables back what they were before. -/
def restoreAll (known : List (String × Option Variable)) : Run Unit :=
  known.forM restoreVariable

/-- The fields of a command, and the arrays that it assigns. -/
structure ExpandedCommand where
  /-- The name and the arguments. -/
  fields : List ByteText
  /-- The arrays that a utility assigns: their names, whether they are appended, and the elements.
  -/
  arrays : List (String × Bool × List (ElementOf Word))

namespace Executor

variable (e : Executor)

/-! ### Words -/

/-- The fields of the first words that stand for anything, and the words behind them. They tell
which utility it is. -/
def leadingFields : List Word → Run (List ByteText × List Word)
  | [] => return ([], [])
  | w :: rest => do
    match ← wordFields e.capture w with
    | [] => leadingFields rest
    | ["command"] =>
      let (others, rest) ← leadingFields rest
      return ("command" :: others, rest)
    | fields => return (fields, rest)

/-- The fields of an argument of a utility that assigns variables, which is not divided. -/
def expandAssigned (a : Assignment) : Run ExpandedCommand := do
  match a.assigned with
  | .array elements => return ⟨[a.name], [(a.name, a.appends, elements)]⟩
  | .text value =>
    let key ← a.key.mapM fun key => textOf e.capture .verbatim key
    let place := key.elim "" fun key => "[" ++ key ++ "]"
    let sign := if a.appends then "+=" else "="
    return ⟨[a.name ++ place ++ sign ++ (← textOf e.capture .assigned value)], []⟩

/-- The fields of the words of a command. -/
def expandCommand (words : List Word) : Run ExpandedCommand := do
  let d := (← get).dialect
  let (first, rest) ← e.leadingFields words
  let name := (first.dropWhile (· == "command")).headD ""
  let isAssigning := (assigningBuiltins d).contains name
  let others ← rest.mapM fun w => do
    match isAssigning, Word.assignment? d w with
    | true, some a => e.expandAssigned a
    | _, _ => return ⟨← wordFields e.capture w, []⟩
  return ⟨first ++ others.flatMap (·.fields), others.flatMap (·.arrays)⟩

/-- The text in front of what is traced. What it asks for is put in without being traced. -/
def traceSign : Run ByteText := do
  match (← get).textOf "PS4" with
  | "+ " => return "+ "
  | text =>
    modify fun s => s.switch false 'x'
    let source := (← get).sourceOf 1 ("\"" ++ text ++ "\"").toList
    let text ← match (Reading.word (pure .nothing) 1000).run source with
      | .ok (w, _) => textOf e.capture .verbatim w
      | .error _ => pure text
    modify fun s => s.switch true 'x'
    return text

/-- Write what is carried out. It goes where errors went before the command was redirected. -/
def trace (errors : Option Nat) (assignments : List Assignment) (fields : List ByteText) :
    Run Unit := do
  let before := (← get).descriptors
  match errors with
  | some i => modify fun s => s.lead 2 i
  | none => pure ()
  let sign ← e.traceSign
  let assigned ← assignments.mapM tracedAssignment
  match (← get).dialect with
  | .plain => write 2 (sign ++ " ".intercalate (assigned ++ fields) ++ "\n")
  | .rich =>
    for text in assigned do write 2 (sign ++ text ++ "\n")
    let shown (t : ByteText) : ByteText := if t.isEmpty then "''" else shownRich t
    if !fields.isEmpty then write 2 (sign ++ " ".intercalate (fields.map shown) ++ "\n")
  modify fun s => { s with descriptors := before }

/-! ### Functions -/

/-- Carry out a function. -/
def callFunction (tested : Bool) (name : String) (body : Command) (arguments : List ByteText) :
    Run Unit := do
  let s ← get
  if maxCalls s.dialect ≤ s.calls.length then
    if s.dialect = .rich then throw (.killed 11)
    giveUp ("Maximum function recursion depth (" ++ Nat.repr (maxCalls .plain) ++ ") reached")
  set { s with
    arguments := arguments, frames := [] :: s.frames, loops := 0, calls := name :: s.calls,
    optionIndex := 1, optionPlace := none }
  let restore : Run Unit := do
    let after ← get
    set { after with
      arguments := s.arguments, frames := s.frames, loops := s.loops, calls := s.calls,
      optionIndex := s.optionIndex, optionPlace := s.optionPlace }
    restoreAll (after.frames.headD [])
  try e.command tested body catch
    | .returned => pure ()
    | leave =>
      restore
      throw leave
  restore

/-! ### Utilities that carry out commands -/

/-- The path of a file of commands, which is looked up like a program. -/
def sourcePath? (file : ByteText) : Run (Option ByteText) := do
  let s ← get
  let isFile (path : ByteText) : Bool := s.node? path matches some (.file _)
  let candidates := ((s.textOf "PATH").splitOn ":").map fun directory => pathIn directory file
  if file.toList.contains '/' then return some file
  else
    match candidates.find? isFile, s.dialect with
    | some path, _ => return some path
    | none, .plain => return none
    | none, .rich => return some file

/-- Carry out a file of commands. -/
def runFile (tested : Bool) (file : ByteText) (arguments : List ByteText) : Run Nat := do
  let s ← get
  let run (speaker text : ByteText) : Run Nat := do
    let isRich := s.dialect = .rich
    let ownArguments := isRich ∧ !arguments.isEmpty
    modify fun after =>
      { after with
        speaker := some speaker,
        sourced := if isRich then speaker :: after.sourced else after.sourced,
        arguments := if ownArguments then arguments else after.arguments }
    let restore : Run Unit := modify fun after =>
      { after with
        sourced := s.sourced,
        arguments := if ownArguments then s.arguments else after.arguments }
    try e.runText (tested && isRich) none 1 (scriptText text.toBytes) catch
      | .returned => pure ()
      | leave =>
        restore
        throw leave
    restore
    return (← get).status
  match ← sourcePath? file, s.dialect with
  | none, _ => misuse (file ++ ": not found")
  | some path, .plain =>
    match s.openStream .read path with
    | .error fault => misuse (openingComplaint .plain .read path fault)
    | .ok _ => run path ((← readFile path).toOption.getD "")
  | some path, .rich =>
    match ← readFile path with
    | .ok text => run path text
    | .error fault =>
      modify fun s => { s with speaker := none }
      if fault = .directory then refuse 1 (".: " ++ path ++ ": is a directory")
      else refuse 1 (path ++ ": " ++ fault.reason)

/-- Carry out a command that is no function, or describe it. -/
def runCommand (tested : Bool) (arguments : List ByteText) : Run Nat := do
  let s ← get
  let (options, words) ← optionsOf "pvV" arguments
  let searchPath := if hasFound 'p' options then standardPath else s.textOf "PATH"
  let describeOne (name : ByteText) : Run Bool :=
    describe (builtinNames s.dialect) searchPath ((options.getLast?.map (·.1)) == some 'V') name
  match hasFound 'v' options || hasFound 'V' options, words, s.dialect with
  | _, [], _ => return 0
  | true, name :: _, .plain => return if ← describeOne name then 0 else 127
  | true, names, .rich => return statusOf ((← names.mapM describeOne).any id)
  | false, name :: arguments, _ =>
    if isBuiltin s.dialect name then e.utility tested false name arguments
    else
      modify fun after => { after with speaker := none }
      e.runProgramApart searchPath (name :: arguments)
    return (← get).status

/-- Run a program in the place of the shell, as the plain dialect does it. -/
def replacePlainShell (arguments : List ByteText) : Run Unit := do
  let s ← get
  let name := arguments.headD ""
  e.runDueJobs
  match s.plainExecution name arguments.tail .missing (candidatePaths (s.textOf "PATH") name) with
  | .error fault => finish (← refusePlain (plainStartStatus fault) name fault)
  | .ok started =>
    modify fun s => { s with traps := ignoredTraps s.traps, speaker := none }
    finish (← e.program started)

/-- The absolute path of a name with a slash. -/
def absolutePath (directory name : ByteText) : ByteText :=
  if (Path.mk name).isAbsolute then name
  else
    pathIn directory (if name.startsWith "./" then String.ofList (name.toList.drop 2) else name)

/-- Run a program in the place of the shell, as the rich dialect does it, perhaps under another
name. -/
def replaceRichShell (options : List OptionFound) (arguments : List ByteText) : Run Unit := do
  let s ← get
  let name := arguments.headD ""
  let searchPath := s.textOf "PATH"
  let path? := if isPath name then some (absolutePath s.shownDirectory name)
    else (s.programPath? searchPath name).or (s.filePath? searchPath name)
  let called := ((options.filter (·.1 == 'a')).getLast?.map (·.2)).getD name
  let called := if hasFound 'l' options then "-" ++ called else called
  e.runDueJobs
  match path? with
  | none =>
    complain (name ++ ": not found")
    finish 127
  | some path =>
    match s.execution maxInterpreters path called arguments.tail with
    | .ok started =>
      modify fun s =>
        { (if hasFound 'c' options then s.withoutEnvironment else s) with
          traps := ignoredTraps s.traps, speaker := none }
      finish (← e.program started)
    | .error fault =>
      let isScript := fault = noProgram && !((s.content path).toOption.any isBinary)
      let traps := if isScript then ignoredTraps s.traps else s.traps
      modify fun s => { s with traps := traps }
      let status ← e.startRichAt path called arguments.tail
      let reason := (if s.isDirectory path then FileFault.directory else fault).reason
      if !isScript && status != 127 then
        if s.isProgram path then say (path ++ ": Success")
        else complain (path ++ ": cannot execute: " ++ reason)
      finish status

/-- The arguments behind dashes that end the options. -/
def behindDashes (arguments : List ByteText) : List ByteText :=
  if arguments.head? = some "--" then arguments.tail else arguments

/-- Run a program in the place of the shell. -/
def replaceShell (arguments : List ByteText) : Run Nat := do
  let isPlain := (← get).dialect = .plain
  let (options, words) ← if isPlain then pure ([], behindDashes arguments)
    else optionsOf "cla:" arguments
  if words.isEmpty then return 0
  if isPlain then e.replacePlainShell words else e.replaceRichShell options words
  throw .exit

/-- Carry out a utility that carries out commands. -/
def runCarrying (tested : Bool) (name : ByteText) (arguments : List ByteText) : Run Nat := do
  let s ← get
  match name, arguments with
  | "eval", _ =>
    let line := if s.dialect = .plain then 1 else s.line
    e.runText tested (some "eval") line (" ".intercalate (behindDashes arguments)).toList
    return (← get).status
  | "exec", _ => e.replaceShell arguments
  | "command", _ => e.runCommand tested arguments
  | "builtin", [] => return 0
  | "builtin", name :: arguments =>
    if isBuiltin s.dialect name then
      e.utility tested false name arguments
      return (← get).status
    else refuse 1 (name ++ ": not a shell builtin")
  | "type", _ => describeAll arguments
  | "wait", _ => e.waitFor arguments
  | _, [] =>
    match s.dialect with
    | .plain => return 0
    | .rich => refuse 2 "filename argument required"
  | _, file :: arguments => e.runFile tested file arguments

/-- Carry out a builtin utility. What is wrong with its use ends the shell if it belongs to the
language. -/
def runUtility (tested isSpecial : Bool) (name : ByteText) (arguments : List ByteText) :
    Run Unit := do
  let s ← get
  let d := s.dialect
  let resume : Run Unit := modify fun after => { after with speaker := s.speaker }
  modify fun s => { s with speaker := some name, writeFault := none }
  let passesOn := if d = .plain then isSpecial
    else (carryingBuiltins d).contains name && name != "command"
  let work : Run Nat := do
    if name = "set" ∧ arguments.isEmpty then
      listVariables
      return 0
    match regularBuiltin? d name with
    | some u => u arguments
    | none => e.runCarrying tested name arguments
  let status ← tryCatch work fun leave => do
    if leave = .failed && !passesOn then return (← get).status
    resume
    throw leave
  let status ←
    match (← get).writeFault with
    | some fault => do
      modify fun s => { s with writeFault := none }
      match d with
      | .plain => complain (name ++ ": I/O error")
      | .rich => complain ("write error: " ++ fault.reason)
      pure (status ||| 1)
    | none => pure status
  resume
  finish status

/-! ### Simple commands -/

/-- Carry out the words of a command. The first of them says what to do. -/
def runWords (tested isSpecial : Bool) : List ByteText → Run Unit
  | [] => finish 0
  | name :: arguments => do
    let s ← get
    match if isSpecial then none else s.functions.lookup name with
    | some (_, body) => e.callFunction tested name body arguments
    | none =>
      if isBuiltin s.dialect name then e.utility tested isSpecial name arguments
      else e.runProgramApart (s.textOf "PATH") (name :: arguments)

/-- Carry out the assignments of a command. They stay, or else what they change is given to be
restored. -/
def carryOutAssignments (stays exports : Bool) (assignments : List Assignment) :
    Run (List (String × Option Variable)) := do
  let mut known := []
  for a in assignments do
    let before := (← get).bindings.lookup a.name
    -- In the rich dialect, a command that has a name is carried out even so.
    try carryOutAssignment e.capture a catch leave =>
      if leave = .failed && !stays && (← get).dialect = .rich then
        finish 0
        continue
      else throw leave
    if exports then
      modify fun s => s.modifyVariable a.name fun v => { v with exported := true }
    if !stays then known := (a.name, before) :: known
  return known

/-- Assign the arrays among the arguments of a utility, whether or not the variables can be changed
by now. -/
def assignArrays (arrays : List (String × Bool × List (ElementOf Word))) : Run Unit := do
  for (name, appends, elements) in arrays do
    let isFixed := ((← get).binding? name).any (·.readOnly)
    modify fun s => s.modifyVariable name fun v => { v with readOnly := false }
    assignArray e.capture name appends elements
    modify fun s => s.modifyVariable name fun v => { v with readOnly := isFixed }

/-- Carry out a simple command. -/
def runSimple (tested : Bool) (assignments : List Assignment) (words : List Word)
    (redirections : List Redirection) : Run Unit := do
  modify fun s => { s with outputStatus := 0 }
  let expanded ← e.expandCommand words
  let fields := expanded.fields
  let s ← get
  let name := fields.headD ""
  let isPlain := s.dialect = .plain
  let isSpecial := isPlain && specialBuiltins.contains name
  let stays := fields.isEmpty || isSpecial
  let exports := !fields.isEmpty && (!isSpecial || name == "exec")
  let errors := s.descriptors.lookup 2
  let work : Run Unit := do
    let known ← e.carryOutAssignments stays exports assignments
    if (← get).hasOption 'x' then e.trace errors assignments fields
    if fields.isEmpty then finish (← get).outputStatus
    else
      try e.runWords tested isSpecial fields catch leave =>
        restoreAll known
        throw leave
      e.assignArrays expanded.arrays
    restoreAll known
  let otherwise : Run Unit := do
    finish (if isPlain then 2 else 1)
    if isSpecial then throw .failed
  -- What is redirected for the shell itself stays so.
  if fields = ["exec"] then
    if ← redirectAll e.capture redirections then work else otherwise
  else redirecting e.capture redirections work otherwise

end Executor

end DesignAtlas.Shell
