import DesignAtlas.Shell.Executor

/-!
# Jobs

Processes that nobody waits for. They make progress when the shell lets time pass: while a program
runs, and while it waits. A job that sleeps is due later.

* `startJob` starts a job.
* `Executor.runJobs` lets jobs work up to a time.
* `Executor.waitFor` waits for jobs.
-/

namespace DesignAtlas.Shell

open Text

/-- The time that a command sleeps, if it does nothing else. -/
def sleepTime? : Command → Option Nat
  | .simple _ [] [name, time] [] =>
    match Word.bareText? name, (Word.bareText? time).bind natural? with
    | some "sleep", some seconds => some (seconds * 1000000000)
    | _, _ => none
  | _ => none

/-- The commands that are carried out one after the other. -/
def tasksOf : Command → List Command
  | .sequence first second => tasksOf first ++ tasksOf second
  | c => [c]

/-- Start a command that is not waited for. -/
def startJob (c : Command) : Run Unit := do
  let process ← newProcess
  let (s, input) := (← get).withStream .nowhere
  set s
  let setting : Setting :=
    { s.toSetting with
      process := process, parent := s.process, traps := ignoredTraps s.traps, leaving := none,
      children := [],
      descriptors := (0, input) :: s.descriptors.filter (·.1 != 0) }
  let job : Job := ⟨process, s.disk.clock, setting, tasksOf c⟩
  modify fun s =>
    { s with jobs := s.jobs ++ [job], lastJob := some process, children := s.children ++ [process] }

/-- The job that is due first. -/
def firstJob? (jobs : List Job) : Option Job :=
  jobs.foldl (fun (best : Option Job) job =>
    match best with
    | some b => if job.due < b.due then some job else some b
    | none => some job) none

namespace Executor

variable (e : Executor)

/-- Carry out the rest of a job. -/
def runJob (job : Job) (c : Command) : Run Unit := do
  let before := (← get).toSetting
  modify fun s => { s with toSetting := job.setting }
  -- What is written for the process to read is there by now.
  let s ← get
  match s.stream? 0 with
  | some (.collector text _) =>
    set (s.setStream ((s.descriptors.lookup 0).getD 0) (.source text.toBytes))
  | _ => pure ()
  let leave? : Option Leave ← tryCatch
    (do
      e.toItsEnd (e.command false c)
      return none) fun leave => return some leave
  let after ← get
  let ending := match leave? with
    | some (.killed signal) => Ending.killed signal
    | _ => .exited (after.status % 256)
  set { after.resumed before with ended := (job.process, ending) :: after.ended }
  if leave? = some .exhausted then throw .exhausted

/-- Carry out jobs, as far as their time comes before a given one. The one that is due first comes
first. -/
def runJobs : (rounds : Nat) → (until? : Option Nat) → Run Unit
  | 0, _ => throw .exhausted
  | rounds + 1, until? => do
    let s ← get
    match firstJob? s.jobs with
    | none => return
    | some job =>
      if until?.any (· < job.due) then return
      let others := s.jobs.filter (·.process != job.process)
      let clock := max s.disk.clock job.due
      set { s with jobs := others, disk := { s.disk with clock := clock } }
      match job.tasks with
      | [] => e.runJob job .nothing
      | task :: tasks =>
        match sleepTime? task with
        | some time =>
          let later : Job := ⟨job.process, job.due + time, job.setting, tasks⟩
          modify fun s => { s with jobs := s.jobs ++ [later] }
        | none => e.runJob job (tasks.foldl Command.sequence task)
      runJobs rounds until?

/-- Let the jobs work that are due by now. -/
def runDueJobs : Run Unit := do
  let s ← get
  if !s.jobs.isEmpty then e.runJobs roundLimit (some s.disk.clock)

/-- Let jobs work until a given one has ended. -/
def runJobsUntil : (rounds : Nat) → (process : Nat) → Run Unit
  | 0, _ => throw .exhausted
  | rounds + 1, process => do
    let s ← get
    match s.jobs.find? (·.process == process) with
    | none => return
    | some job =>
      e.runJobs roundLimit (some (((firstJob? s.jobs).map (·.due)).getD job.due))
      runJobsUntil rounds process

/-- Wait for a job that an argument names, and find out its status. -/
def waitForOne (target : ByteText) : Run Nat := do
  let s ← get
  let process? :=
    match target.toList with
    | '%' :: number => (natural? (String.ofList number)).bind fun n => s.children[n - 1]?
    | _ => natural? target
  match process? with
  | none =>
    match s.dialect with
    | .plain => misuse ((if target.startsWith "%" then "No such job: "
        else "Illegal number: ") ++ target)
    | .rich => refuse 1 ("\x60" ++ target ++ "': not a pid or valid job spec")
  | some process =>
    e.runJobsUntil roundLimit process
    let s ← get
    match s.ended.lookup process with
    | some ending =>
      if s.dialect = .plain ∧ s.children.contains process then
        sayEnding ending
      modify fun s => { s with children := s.children.map fun c => if c = process then 0 else c }
      return ending.status
    | none =>
      if s.dialect = .rich then
        complain ("pid " ++ Nat.repr process ++ " is not a child of this shell")
      return 127

/-- Wait for jobs, or for all of them. -/
def waitFor : Utility := fun arguments => do
  match arguments.filter fun a => a != "--" && a != "-n" && a != "-f" with
  | [] =>
    let mine := (← get).children
    e.runJobs roundLimit none
    modify fun s =>
      { s with children := [], ended := s.ended.filter fun e => !mine.contains e.1 }
    return 0
  | targets => return ((← targets.mapM e.waitForOne).getLast?).getD 0

end Executor

end DesignAtlas.Shell
