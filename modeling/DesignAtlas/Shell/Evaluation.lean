import DesignAtlas.Shell.Calling
import DesignAtlas.Shell.Compound

/-!
# Evaluation

How a shell carries out commands, and how a program is started. The steps of a shell are tied
together here: an executor of some depth carries out the parts of a command by an executor of a
lesser depth.

* `Executor.evaluate` carries out a command.
* `executor` is the executor of a depth.
* `startProgram` starts a program and gives what it leaves behind.
-/

namespace DesignAtlas.Shell

open Text

namespace Executor

variable (e : Executor)

/-- Find out whether an expression is not 0. -/
def runArithmetic (expression : Word) : Run Unit := do
  let old := (← get).speaker
  modify fun s => { s with speaker := some "((" }
  let n? : Option Int ← tryCatch
    (do return some (← calculate (← textOf e.capture .verbatim expression))) fun leave =>
      if leave = .failed then return none else throw leave
  modify fun s => { s with speaker := old }
  finish (if n?.getD 0 = 0 then 1 else 0)

/-- The value of an expression in the head of a loop, where an empty one counts as 1. -/
def headNumber (expression : Word) : Run Int := do
  let text ← textOf e.capture .verbatim expression
  if text.toList.all isAroundNumber then return 1 else calculate text

/-- Carry out a command. -/
def evaluate (tested : Bool) (c : Command) : Run Unit := do
  if (← get).hasOption 'n' then return
  let enter (line : Nat) : Run Unit := modify fun s => { s with line := line }
  match c with
  | .nothing => pure ()
  | .simple line assignments words redirections =>
    enter line
    e.runSimple tested assignments words redirections
    e.checkSignals
    checkStatus tested
  | .sequence first second =>
    e.command tested first
    e.command tested second
  | .both first second =>
    e.command true first
    if (← get).status = 0 then e.command tested second
  | .either first second =>
    e.command true first
    if (← get).status ≠ 0 then e.command tested second
  | .pipeline stages =>
    e.runPipeline tested stages
    e.checkSignals
    checkStatus tested
  | .negated c =>
    e.command true c
    finish (if (← get).status = 0 then 1 else 0)
  | .redirected line c redirections =>
    enter line
    redirecting e.capture redirections (e.command tested c) do
      finish (if (← get).dialect = .plain then 2 else 1)
      checkStatus tested
  | .subshell line c =>
    enter line
    let ending ← e.subshell (e.command tested c)
    sayEnding ending
    finish ending.status
    e.checkSignals
    checkStatus tested
  | .background line c =>
    enter line
    startJob c
    finish 0
  | .define _ name body =>
    modify fun s =>
      { s with functions := (name, s.line, body) :: s.functions.filter (·.1 != name) }
    finish 0
  | .choice test yes no =>
    e.command true test
    if (← get).status = 0 then e.command tested yes
    else
      match no with
      | .nothing => finish 0
      | no => e.command tested no
  | .loop untilHolds test body => e.runLoop tested untilHolds test body roundLimit 0
  | .each line name words body =>
    enter line
    let fields ←
      match words with
      | some words => fieldsOf e.capture words
      | none => do pure (← get).arguments
    if fields.isEmpty then finish 0 else e.runRounds tested name body fields
  | .select line subject branches =>
    enter line
    let text ← textOf e.capture .text subject
    e.runBranches tested text false false branches
  | .arithmetic line expression =>
    enter line
    e.runArithmetic expression
    checkStatus tested
  | .condition line c =>
    enter line
    let holds ← e.conditionHolds c
    finish (if holds then 0 else 1)
    checkStatus tested
  | .counted line first test step body =>
    enter line
    let _ ← e.headNumber first
    e.runCounted tested (e.headNumber test) (e.headNumber step) body roundLimit true
  | .timed c =>
    e.command tested c
    write 2 "\nreal\t0m0.000s\nuser\t0m0.000s\nsys\t0m0.000s\n"

end Executor

/-- The executor of a depth. What lies deeper is not carried out. -/
def executor : (depth : Nat) → Executor
  | 0 =>
    { command := fun _ _ => throw .exhausted
      program := fun _ => throw .exhausted
      utility := fun _ _ _ _ => throw .exhausted }
  | depth + 1 =>
    { command := fun tested c => (executor depth).evaluate tested c
      program := fun started => (executor depth).runInstalled started
      utility := fun tested isSpecial name arguments =>
        (executor depth).runUtility tested isSpecial name arguments }

/-! ### Runs -/

/-- The depth to which commands are carried out. -/
def maxDepth : Nat := 1000000

/-- What a program leaves behind. -/
structure Ran where
  /-- The files. -/
  disk : Disk
  /-- What it wrote as output. -/
  output : List UInt8
  /-- What it wrote as errors. -/
  errors : List UInt8
  /-- How it ended. -/
  ending : Ending

/-- The number of the first process. -/
def firstProcess : Nat := 2000

/-- The session that a program is started in. -/
def Session.beginning (disk : Disk) (searchPath : ByteText) (directory : Address) : Session :=
  let shown := ByteText.ofText (Disk.shownPath directory)
  let exported (name : String) (text : ByteText) : String × Variable :=
    (name, { Variable.ofText text with exported := true })
  { dialect := .plain, directory := directory, shownDirectory := shown,
    bindings := [exported "LC_ALL" "C", exported "PATH" searchPath],
    functions := [], aliases := [], tracked := [], frames := [], options := [], features := [],
    script := "", arguments := [], status := 0, outputStatus := 0, stageStatuses := [],
    loops := 0, calls := [], sourced := [], traps := [], leaving := none, process := firstProcess,
    mainProcess := firstProcess, parent := firstProcess - 1, lastJob := none, children := [],
    line := 0, reached := 0, speaker := none, descriptors := [(0, 0), (1, 1), (2, 2)],
    mask := 0o022, optionIndex := 1, optionPlace := none,
    disk := disk, streams := #[.nowhere, .collector "" false, .collector "" false],
    documents := #[], nextProcess := firstProcess + 1, jobs := [], ended := [], signals := [],
    writeFault := none, seed := 1 }

/-- The text that a collecting stream has. -/
def Session.collected (s : Session) (stream : Nat) : List UInt8 :=
  match s.streams[stream]? with
  | some (.collector text _) => text.toBytes
  | _ => []

/-- Run a program with arguments in a directory, without input. The work of a program that would
take too long is cut off. -/
def startProgram (disk : Disk) (searchPath : ByteText) (directory : Address) (name : ByteText)
    (arguments : List ByteText) : Except FileFault Ran :=
  let s := Session.beginning disk searchPath directory
  match s.spawned false searchPath name arguments with
  | .error fault => .error fault
  | .ok started =>
    let e := executor maxDepth
    let work : Run Unit := do finish (← e.program started)
    let (result, ended) := (work.run.run s).run
    let (_, s) := ((e.runJobs roundLimit none).run.run ended).run
    let ending :=
      match result with
      | .error (.killed signal) => Ending.killed signal
      | _ => .exited (ended.status % 256)
    .ok ⟨s.disk, s.collected 1, s.collected 2, ending⟩

end DesignAtlas.Shell
