import DesignAtlas.CommandLine.Arguments
import DesignAtlas.CommandLine.Report
import DesignAtlas.Report.Document
import DesignAtlas.Report.Outline
import DesignAtlas.Simulation.SettingsFile
import DesignAtlas.Workspace.Basic

/-!
# Carrying out an invocation

What an invocation comes to, as far as it follows from the file system: a text to print, a file to
write, a command line to hand to a shell, or a failure. The project is always analyzed first.

* `Invocation.outcome` finds out what an invocation comes to.
-/

namespace DesignAtlas

/-- A command line to be run. -/
structure Launch where
  /-- The shell that runs it. -/
  shell : ShellKind
  /-- The command line. -/
  line : String
  /-- The directory it runs in. -/
  directory : Path
  deriving DecidableEq, Repr

/-- The program that runs a command line, and its arguments. -/
def Launch.words (l : Launch) : String × List String :=
  match l.shell with
  | .posix => ("sh", ["-c", l.line])
  | .powershell => ("powershell", ["-NoProfile", "-Command", l.line])

/-- What an invocation comes to. -/
inductive Outcome where
  /-- A text is printed. -/
  | print (text : String)
  /-- A text is written to a file. -/
  | save (path : Path) (text : String)
  /-- A command line is run. -/
  | launch (l : Launch)
  /-- The invocation fails. -/
  | failed (f : CommandFailure)
  deriving DecidableEq, Repr

/-- The entries of the folder that parts of a path lead to below a folder. Every folder on the way
is read. -/
def Folder.entriesBelow (storage : Storage) (directory : String) (f : Folder) :
    (parts : List String) → Except CommandFailure (List FolderEntry)
  | [] =>
    match f.expand storage with
    | .error cause => .error (.project cause)
    | .ok opened => .ok opened.children
  | part :: parts =>
    match f.expand storage with
    | .error cause => .error (.project cause)
    | .ok opened =>
      match opened.child? part with
      | none => .error (.noFolder part directory)
      | some inner => inner.entriesBelow storage directory parts

namespace Project

/-- The names in the path of a directory of the project. -/
def directoryParts (directory : String) : List String :=
  ((Path.segments directory.toList).filter (!·.isEmpty)).map String.ofList

/-- The entries of a directory of the project. -/
def directoryEntries (storage : Storage) (p : Project) (directory : String) :
    Except CommandFailure (List FolderEntry) :=
  let parts := directoryParts directory
  let first := parts.head?.getD ""
  match p.bucket? first with
  | none => .error (.noRootFolder first)
  | some f => f.entriesBelow storage directory parts.tail

/-- The line that shows an entry of a directory. -/
def entryLine : FolderEntry → String
  | .file name _ => name ++ "\n"
  | .folder f => f.name ++ "/\n"

/-- Show the whole project. -/
def treeOutcome (p : Project) (layout : Option Json.Layout) (output : Option Path) : Outcome :=
  match layout, output with
  | none, none => .print p.outline
  | none, some path => .save path p.outline
  | some layout, none => .print (p.document layout ++ "\n")
  | some layout, some path => .save path (p.document layout)

/-- List the files to compile for a module. -/
def filesOutcome (p : Project) (query : String) : Outcome :=
  match p.findModule query >>= p.compileSet with
  | .error cause => .failed (.project cause)
  | .ok paths => .print (String.join (paths.map fun path => path.text ++ "\n"))

/-- The command line for an action on a module. -/
def actionLine (storage : Storage) (p : Project) (settingsFile : Option Path)
    (request : ActionRequest) : Except Failure String := do
  let id ← p.findModule request.query
  let settings ←
    match settingsFile with
    | some path => Settings.loadFile storage path
    | none => Settings.load storage p.root
  let settings := settings.withOverrides request.compileOutput request.simulationOutput
  return Action.commandLine (request.action.words (p.registry.nameOf id) settings request.shell)

/-- Carry out an action on a module. -/
def actionOutcome (storage : Storage) (p : Project) (settingsFile : Option Path)
    (request : ActionRequest) : Outcome :=
  match p.actionLine storage settingsFile request with
  | .error cause => .failed (.project cause)
  | .ok line =>
    if request.dryRun then .print (line ++ "\n")
    else .launch ⟨request.shell, line, p.root⟩

/-- List a directory of the project. -/
def listOutcome (storage : Storage) (p : Project) (directory : String) : Outcome :=
  match p.directoryEntries storage directory with
  | .error f => .failed f
  | .ok entries => .print (String.join (entries.map entryLine))

end Project

/-- What an invocation comes to. -/
def Invocation.outcome (storage : Storage) (schedule : Schedule) (i : Invocation) : Outcome :=
  let (w, result) := (Workspace.ofRoot i.root).waitForAccomplish storage schedule
  match result with
  | .error cause => .failed (.analysis i.root cause)
  | .ok () =>
    let p := w.project
    match i.request with
    | .tree layout output => p.treeOutcome layout output
    | .files query => p.filesOutcome query
    | .act request => p.actionOutcome storage i.settingsFile request
    | .list directory => p.listOutcome storage directory

end DesignAtlas
