import DesignAtlas.Shell.Step

/-!
# The table of builtin utilities

The utilities that a shell carries out by itself, by their names. Some of them carry out commands in
turn; those are only named here.

* `regularBuiltin?` is a utility that carries out no commands.
-/

namespace DesignAtlas.Shell

open Text

/-- End the shell with a status, which is that of the last command unless it is given. -/
def exitShell : Utility := fun arguments => do
  let s ← get
  match arguments.filter (· != "--") with
  | [] => exitWith (s.leaving.getD s.status)
  | text :: _ =>
    match s.dialect, decimal? text with
    | .rich, some n => exitWith (n % 256).toNat
    | .rich, none =>
      complain (text ++ ": numeric argument required")
      exitWith 2
    | .plain, _ => exitWith (← numberArgument text)

/-- End a function or a file of commands. -/
def returnFrom : Utility := fun arguments => do
  let s ← get
  if s.dialect = .rich ∧ s.calls.isEmpty ∧ s.sourced.isEmpty then
    return ← refuse 2 "can only \x60return' from a function or sourced script"
  match arguments.filter (· != "--") with
  | [] =>
    finish s.status
    throw .returned
  | text :: _ =>
    match s.dialect, decimal? text with
    | .rich, some n => finish (n % 256).toNat
    | _, _ => finish (← numberArgument text)
    throw .returned

/-- Say how long the shell has worked. -/
def sayTimes : Utility := fun _ => do
  match (← get).dialect with
  | .plain => write 1 "0m0.000000s 0m0.000000s\n0m0.000000s 0m0.000000s\n"
  | .rich => write 1 "0m0.000s 0m0.000s\n0m0.000s 0m0.000s\n"
  return 0

/-- Say or change what a process may use. Nothing is limited here. -/
def limitUse : Utility := fun arguments => do
  let letters := (← get).dialect
  let (options, operands) ←
    optionsOf (if letters = .plain then "HSatfdscmlpnvwr" else "HSabcdefiklmnpqrstuvxPRT") arguments
  if operands.isEmpty then
    write 1 (if hasFound 'c' options then "0\n" else if hasFound 'n' options then "1048576\n"
      else "unlimited\n")
  return 0

/-- Write the processes that are not waited for. -/
def listJobs : Utility := fun arguments => do
  let s ← get
  let (options, _) ← optionsOf (if s.dialect = .plain then "lp" else "lnprs") arguments
  let running := s.children.zipIdx.filter fun child => s.jobs.any fun j => j.process == child.1
  let last := running.getLast?.map (·.2)
  let order := if s.dialect = .plain then running.reverse else running
  for (process, i) in order do
    let mark :=
      if last = some i then "+"
      else if running.length ≥ 2 ∧ (running[running.length - 2]?.map (·.2)) = some i then "-"
      else " "
    write 1 <|
      if hasFound 'p' options then Nat.repr process ++ "\n"
      else
        match s.dialect with
        | .plain => "[" ++ Nat.repr (i + 1) ++ "] " ++ mark ++ " Running                    \n"
        | .rich => "[" ++ Nat.repr (i + 1) ++ "]" ++ mark ++ "  Running                 \n"
  return 0

/-- Complain that there is no process to be taken up again. -/
def resumeJob : Utility := fun _ => do
  match (← get).dialect with
  | .plain => refuse 2 "No current job"
  | .rich => refuse 1 "no job control"

/-- Keep in mind where programs are found. -/
def trackPrograms : Utility := fun arguments => do
  let d := (← get).dialect
  let (options, operands) ← optionsOf (if d = .plain then "rv" else "lrtdp:") arguments
  if hasFound 'r' options then modify fun s => { s with tracked := [] }
  if operands.isEmpty && !hasFound 'r' options then
    let s ← get
    for name in s.tracked do
      match s.programPath? (s.textOf "PATH") name with
      | some path => write 1 (path ++ "\n")
      | none => pure ()
  let mut status := 0
  for name in operands do
    let s ← get
    if (s.programPath? (s.textOf "PATH") name).isSome then
      set { s with tracked := name :: s.tracked.filter (· != name) }
    else
      complain (name ++ ": not found")
      status := 1
  return status

/-- Show the directories that the shell goes back to. -/
def showStack : Utility := fun _ => do
  let s ← get
  let stack := (s.arrayValue "DIRSTACK").texts
  write 1 (" ".intercalate (s.shownDirectory :: stack) ++ "\n")
  return 0

/-- Go to a directory and remember where the shell was. -/
def pushDirectory : Utility := fun arguments => do
  let s ← get
  let here := s.shownDirectory
  let stack := (s.arrayValue "DIRSTACK").texts
  let goal? := match arguments, stack with
    | path :: _, stack => some (path, here :: stack)
    | [], last :: others => some (last, here :: others)
    | [], [] => none
  match goal? with
  | none => refuse 1 "no other directory"
  | some (path, stack) =>
    match ← enterDirectory false path with
    | .ok () =>
      assignValue "DIRSTACK" (.indexed (stack.zipIdx.map fun e => (e.2, e.1)))
      showStack []
    | .error fault => refuse 1 (path ++ ": " ++ fault.reason)

/-- Go back to the directory where the shell was. -/
def popDirectory : Utility := fun _ => do
  match ((← get).arrayValue "DIRSTACK").texts with
  | [] => refuse 1 "directory stack empty"
  | path :: stack =>
    match ← enterDirectory false path with
    | .ok () =>
      assignValue "DIRSTACK" (.indexed (stack.zipIdx.map fun e => (e.2, e.1)))
      showStack []
    | .error fault => refuse 1 (path ++ ": " ++ fault.reason)

/-- The utilities of both dialects that carry out no commands. -/
def commonBuiltins : List (String × Utility) :=
  [(":", ending 0), ("true", ending 0), ("false", ending 1), ("echo", echo),
   ("printf", printFormat), ("test", test), ("[", bracketTest), ("cd", changeDirectory),
   ("pwd", printDirectory), ("read", readLine), ("export", exportAll), ("readonly", protectAll),
   ("unset", forgetAll), ("shift", shift), ("getopts", getOption), ("set", setOptions),
   ("alias", aliasAll), ("unalias", unaliasAll), ("umask", limitMode), ("trap", trapSignals),
   ("kill", sendSignals), ("exit", exitShell), ("return", returnFrom),
   ("break", leaveLoops .breakLoop), ("continue", leaveLoops .nextRound), ("times", sayTimes),
   ("ulimit", limitUse), ("jobs", listJobs), ("fg", resumeJob), ("bg", resumeJob),
   ("hash", trackPrograms)]

/-- The utilities of one dialect only that carry out no commands. -/
def ownBuiltins : Dialect → List (String × Utility)
  | .plain => [("chdir", changeDirectory), ("local", localAll)]
  | .rich =>
    [("local", declareLocal), ("declare", declareAll), ("typeset", declareAll),
     ("let", calculateAll), ("shopt", switchFeatures), ("mapfile", readLines),
     ("readarray", readLines), ("pushd", pushDirectory), ("popd", popDirectory),
     ("dirs", showStack), ("logout", exitShell), ("history", ending 0), ("disown", ending 0),
     ("suspend", ending 1), ("enable", ending 0), ("bind", ending 0), ("complete", ending 0),
     ("compgen", ending 1), ("caller", ending 1)]

/-- The utility of a name that carries out no commands. -/
def regularBuiltin? (d : Dialect) (name : ByteText) : Option Utility :=
  match (ownBuiltins d).lookup name with
  | some u => some u
  | none => commonBuiltins.lookup name

/-- The names of the utilities that carry out commands. -/
def carryingBuiltins : Dialect → List String
  | .plain => ["eval", ".", "exec", "command", "type", "wait"]
  | .rich => ["eval", ".", "source", "exec", "command", "builtin", "type", "wait"]

/-- The names of all builtin utilities. -/
def builtinNames (d : Dialect) : List String :=
  carryingBuiltins d ++ (ownBuiltins d).map (·.1) ++ commonBuiltins.map (·.1)

/-- Whether a name is that of a builtin utility. -/
def isBuiltin (d : Dialect) (name : ByteText) : Bool :=
  (builtinNames d).contains name

/-- Set the variable without a value again that a listing is about. -/
def listVariables : Run Unit := do
  let s ← get
  for (name, v) in sortedBindings s do
    match v.value, s.dialect with
    | .missing, _ => pure ()
    | .text t, .plain => write 1 (name ++ "=" ++ quotedPlain t ++ "\n")
    | .text t, .rich => write 1 (name ++ "=" ++ shownRich t ++ "\n")
    | _, _ => write 1 (shownBinding s.dialect name v ++ "\n")

end DesignAtlas.Shell
