import DesignAtlas.Shell.Ending
import DesignAtlas.Shell.Stream
import DesignAtlas.Shell.Variable

/-!
# Sessions

What a shell holds while it works. Some of it belongs to the shell itself, such as its directory,
its variables and where its descriptors lead; the rest is shared by all shells and programs that run
together, such as the disk and the streams.

* `Run` is work in a session. It can end early, and `Leave` says why.
* `write` and `unread` are about the bytes behind descriptors.
* `report` and `complain` say what is wrong.
* `inSubshell`, `inProcess` and `captured` do work apart from the shell, in part or as a whole.
-/

namespace DesignAtlas.Shell

open Text

/-- What a shell has for itself. -/
structure Setting where
  /-- The dialect. -/
  dialect : Dialect
  /-- The directory that paths start from. -/
  directory : Address
  /-- The path that the directory was reached by. -/
  shownDirectory : ByteText
  /-- The variables. -/
  bindings : List (String × Variable)
  /-- The functions, with the lines where they start. -/
  functions : List (String × Nat × Command)
  /-- The words that stand for other texts. -/
  aliases : List (String × ByteText)
  /-- The programs that have been looked up. -/
  tracked : List ByteText
  /-- The variables that the functions which are carried out have for themselves, the innermost
  function first, with what they were before. -/
  frames : List (List (String × Option Variable))
  /-- The letters of the options that are on. -/
  options : List Char
  /-- The features of the rich dialect that are on. -/
  features : List String
  /-- The name of the script. -/
  script : ByteText
  /-- The arguments of the script or function. -/
  arguments : List ByteText
  /-- The status of the last command. -/
  status : Nat
  /-- The status of the last command whose output was put into a word. -/
  outputStatus : Nat
  /-- The statuses of the stages of the last pipeline. -/
  stageStatuses : List Nat
  /-- The number of loops around the command that is carried out. -/
  loops : Nat
  /-- The functions that are carried out, the innermost one first. -/
  calls : List String
  /-- The files of commands that are carried out, the innermost one first. -/
  sourced : List ByteText
  /-- What is carried out when a signal arrives, by signals; 0 is for the end of the shell. -/
  traps : List (Nat × ByteText)
  /-- The status with which the shell ends, while it carries out what belongs to its end. -/
  leaving : Option Nat
  /-- The number of the process. -/
  process : Nat
  /-- The number of the process that the shell was started as. -/
  mainProcess : Nat
  /-- The number of the process that started the shell. -/
  parent : Nat
  /-- The process that was started last without being waited for. -/
  lastJob : Option Nat
  /-- The processes that were started without being waited for. -/
  children : List Nat
  /-- The line of the command that is carried out. -/
  line : Nat
  /-- The line that the shell has read up to. -/
  reached : Nat
  /-- The utility that is carried out. -/
  speaker : Option ByteText
  /-- The streams that descriptors lead to. -/
  descriptors : List (Nat × Nat)
  /-- The permissions that new files do not get. -/
  mask : Nat
  /-- The number of the argument whose options are read. -/
  optionIndex : Nat
  /-- The place inside it, if its options have been read in part. -/
  optionPlace : Option Nat

/-- Work that a process does without being waited for. -/
structure Job where
  /-- The number of the process. -/
  process : Nat
  /-- The time before which nothing happens. -/
  due : Nat
  /-- The shell that does the work. -/
  setting : Setting
  /-- What is left to do. -/
  tasks : List Command

/-- What shells and programs share. -/
structure World where
  /-- The files. -/
  disk : Disk
  /-- What descriptors can lead to. -/
  streams : Array Stream
  /-- The documents that have been read, by their numbers. -/
  documents : Array Word
  /-- The number of the next process. -/
  nextProcess : Nat
  /-- The work that is not waited for. -/
  jobs : List Job
  /-- How the processes ended that were not waited for. -/
  ended : List (Nat × Ending)
  /-- The signals on their way, with the processes they are for. -/
  signals : List (Nat × Nat)
  /-- Why the last attempt to write failed. -/
  writeFault : Option FileFault
  /-- What the next number at random comes from. -/
  seed : Nat

/-- The state of a shell, with what it shares with other shells. -/
structure Session extends Setting, World

/-- Why a command does not come to its end. -/
inductive Leave where
  /-- The shell ends. -/
  | exit
  /-- The shell cannot go on, unless somebody takes care of that. -/
  | failed
  /-- A function or a file of commands ends. -/
  | returned
  /-- A loop ends, after so many loops around it. -/
  | breakLoop (outer : Nat)
  /-- A loop goes on with its next round, after so many loops around it have ended. -/
  | nextRound (outer : Nat)
  /-- A signal ends the process. -/
  | killed (signal : Nat)
  /-- The work takes longer than was allowed. -/
  | exhausted
  deriving DecidableEq, Repr

/-- What a shell or a program does in a session. -/
abbrev Run (α : Type) : Type :=
  ExceptT Leave (StateM Session) α

namespace Session

/-- Whether an option is on. -/
def hasOption (s : Session) (letter : Char) : Bool :=
  s.options.contains letter

/-- Whether a feature is on. -/
def hasFeature (s : Session) (name : String) : Bool :=
  s.features.contains name

/-- What a descriptor leads to. -/
def stream? (s : Session) (descriptor : Nat) : Option Stream :=
  (s.descriptors.lookup descriptor).bind fun i => s.streams[i]?

/-- Let a descriptor lead to a stream. -/
def lead (s : Session) (descriptor stream : Nat) : Session :=
  { s with descriptors := (descriptor, stream) :: s.descriptors.filter (·.1 != descriptor) }

/-- Let a descriptor lead nowhere any more. -/
def close (s : Session) (descriptor : Nat) : Session :=
  { s with descriptors := s.descriptors.filter (·.1 != descriptor) }

/-- A new stream and its number. -/
def withStream (s : Session) (stream : Stream) : Session × Nat :=
  ({ s with streams := s.streams.push stream }, s.streams.size)

/-- Change a stream. -/
def setStream (s : Session) (i : Nat) (stream : Stream) : Session :=
  { s with streams := s.streams.setIfInBounds i stream }

/-- The address that a path leads to, links followed. -/
def locate (s : Session) (path : ByteText) : Except FileFault Address :=
  s.disk.locateFrom s.directory ⟨path.toText⟩

/-- What stands where a path leads, links followed. -/
def node (s : Session) (path : ByteText) : Except FileFault DiskNode :=
  s.disk.nodeFrom s.directory ⟨path.toText⟩

/-- What stands where a path leads, links followed, if anything does. -/
def node? (s : Session) (path : ByteText) : Option DiskNode :=
  (s.node path).toOption

/-- What stands where a path leads, be it a link. -/
def entryAt (s : Session) (path : ByteText) : Option DiskNode :=
  match s.disk.reach .entry s.directory ⟨path.toText⟩ with
  | .ok address => s.disk.node? address
  | .error _ => none

/-- Whether a path leads to a directory. -/
def isDirectory (s : Session) (path : ByteText) : Bool :=
  s.node? path matches some (.directory _)

/-- The content of a file. -/
def content (s : Session) (path : ByteText) : Except FileFault (List UInt8) :=
  s.node path >>= Disk.contentOf

/-- The permissions of a new file. -/
def newMode (s : Session) : Mode :=
  Mode.without ⟨0o666⟩ s.mask

end Session

/-! ### Statuses and ends -/

/-- End a command with a status. -/
def finish (status : Nat) : Run Unit :=
  modify fun s => { s with status := status }

/-- End the shell with a status. -/
def exitWith {α : Type} (status : Nat) : Run α := do
  finish status
  throw .exit

/-! ### Reading and writing -/

/-- The bytes behind a descriptor that have not been read. -/
def Session.unread (s : Session) (descriptor : Nat) : Except FileFault (List UInt8) :=
  match s.stream? descriptor with
  | none => .error (.system 9)
  | some stream =>
    if stream.reads = false then .error (.system 9)
    else
      match stream with
      | .source left => .ok left
      | .file address offset _ _ _ =>
        match s.disk.node? address with
        | some (.file f) => .ok (f.content.drop offset)
        | some node => Disk.contentOf node
        | none => .ok []
      | .directory _ => .error .directory
      | .zeros => .ok (List.replicate 100000 0)
      | _ => .ok []

/-- Take so many bytes away that have been read. -/
def Session.consume (s : Session) (descriptor count : Nat) : Session :=
  match s.descriptors.lookup descriptor with
  | none => s
  | some i =>
    match s.streams[i]? with
    | some (.source left) => s.setStream i (.source (left.drop count))
    | some (.file address offset r w a) => s.setStream i (.file address (offset + count) r w a)
    | _ => s

/-- Read everything that is left behind a descriptor. -/
def readAll (descriptor : Nat) : Run (Except FileFault ByteText) := do
  let s ← get
  match s.unread descriptor with
  | .error fault => return .error fault
  | .ok bytes =>
    set (s.consume descriptor bytes.length)
    return .ok (.ofBytes bytes)

/-- Give so many bytes back that have been read. Only a file takes them. -/
def giveBack (descriptor count : Nat) : Run Unit :=
  modify fun s =>
    match s.descriptors.lookup descriptor with
    | none => s
    | some i =>
      match s.streams[i]? with
      | some (.file address offset r w a) => s.setStream i (.file address (offset - count) r w a)
      | _ => s

/-- Write bytes to a descriptor. A fault is kept for the end of the command. -/
def write (descriptor : Nat) (text : ByteText) : Run Unit := do
  let failed (fault : FileFault) : Run Unit :=
    modify fun s => { s with writeFault := some fault }
  let s ← get
  if text.isEmpty then return
  match s.descriptors.lookup descriptor with
  | none => failed (.system 9)
  | some i =>
    match s.streams[i]? with
    | some (.collector _ isPipe) =>
      modify fun s => { s with streams := s.streams.modify i fun stream =>
        match stream with
        | .collector known isPipe => .collector (known ++ text) isPipe
        | stream => stream }
      if isPipe then
        match (← get).streams[i]? with
        | some (.collector known _) =>
          if Stream.pipeLimit < known.utf8ByteSize then throw (.killed 13)
        | _ => pure ()
    | some (.file address offset _ true appends) =>
      let bytes := text.toBytes
      let known :=
        match s.disk.node? address with
        | some (.file f) => f.content
        | _ => []
      let offset := if appends then known.length else offset
      set { s.setStream i (.file address (offset + bytes.length)
              (s.streams[i]?.any Stream.reads) true appends) with
        disk := s.disk.fill address s.newMode (overwritten known offset bytes) }
    | some .full => failed .noSpace
    | some stream => if stream.writes = false then failed (.system 9)
    | none => failed (.system 9)

/-- The session with an empty environment. -/
def Session.withoutEnvironment (s : Session) : Session :=
  { s with bindings := s.bindings.map fun b => (b.1, { b.2 with exported := false }) }

/-! ### Messages -/

/-- Write what the shell has to say, behind its name and the line. -/
def say (subject : ByteText) : Run Unit := do
  let s ← get
  let place :=
    match s.dialect with
    | .plain => s.script ++ ": " ++ Nat.repr s.line ++ ": "
    | .rich => s.sourced.headD s.script ++ ": line " ++ Nat.repr s.line ++ ": "
  let fault := s.writeFault
  write 2 (place ++ subject ++ "\n")
  modify fun s => { s with writeFault := fault }

/-- Say that a utility has something to complain about. -/
def complain (subject : ByteText) : Run Unit := do
  let s ← get
  say (s.speaker.elim subject (· ++ ": " ++ subject))

/-- Say that the shell has something to complain about. The plain dialect names the utility that is
carried out. -/
def report (subject : ByteText) : Run Unit := do
  match (← get).dialect with
  | .plain => complain subject
  | .rich => say subject

/-- Say why the shell cannot go on, and give up. -/
def giveUp {α : Type} (subject : ByteText) : Run α := do
  report subject
  finish (if (← get).dialect = .plain then 2 else 1)
  throw .failed

/-- Complain, and end a utility with a status. -/
def refuse (status : Nat) (subject : ByteText) : Run Nat := do
  complain subject
  return status

/-- Complain about the use of a utility, and give it up. -/
def misuse {α : Type} (subject : ByteText) : Run α := do
  complain subject
  finish 2
  throw .failed

/-! ### Work apart from the shell -/

/-- A number for a new process. -/
def newProcess : Run Nat := do
  let s ← get
  set { s with nextProcess := s.nextProcess + 1 }
  return s.nextProcess

/-- Undo what some work did to the shell itself. -/
def Session.resumed (after : Session) (before : Setting) : Session :=
  { after with toSetting := before }

/-- The traps that a shell hands on to a shell of its own: signals that are ignored stay ignored. -/
def ignoredTraps (traps : List (Nat × ByteText)) : List (Nat × ByteText) :=
  traps.filter fun t => t.2.isEmpty && t.1 != 0

/-- Do work in a process of its own and find out how it ended. What it does to files and channels
stays. -/
def inProcess (work : Run Unit) : Run Ending := do
  let before := (← get).toSetting
  let process ← newProcess
  modify fun s => { s with process := process, parent := before.process }
  let leave? : Option Leave ← tryCatch (do work; return none) fun leave => return some leave
  let after ← get
  set (after.resumed before)
  match leave? with
  | some .exhausted => throw .exhausted
  | some (.killed signal) => return .killed signal
  | _ => return .exited (after.status % 256)

/-- Do work, and give what it writes as output besides. -/
def captured {α : Type} (work : Run α) : Run (α × ByteText) := do
  let before ← get
  let old := before.descriptors.lookup 1
  let (s, i) := before.withStream (.collector "" false)
  set (s.lead 1 i)
  let restore : Run Unit :=
    modify fun s => match old with
      | some stream => s.lead 1 stream
      | none => s.close 1
  let a ← tryCatch work fun leave => do
    restore
    throw leave
  restore
  match (← get).streams[i]? with
  | some (.collector text _) =>
    modify fun s => s.setStream i .nowhere
    return (a, text)
  | _ => return (a, "")

end DesignAtlas.Shell
