import DesignAtlas.CommandLine.Completion
import DesignAtlas.Workspace.Notice

/-!
# The program

The command line program. It looks at the file system once, finds out what the arguments come to,
and prints or writes that. Command lines are shown with the option `--dry-run`; the program itself
starts no others.
-/

namespace DesignAtlas

/-- The fault of a system error that is given by its number or by the negative of it, as a word. -/
def FileFault.ofCode (code : UInt32) : FileFault :=
  .system (min code.toNat (-code).toNat)

/-- The fault behind an error of an input or output operation. -/
def FileFault.ofError : IO.Error → FileFault
  | .alreadyExists _ code _ | .otherError code _ | .resourceBusy code _
  | .resourceVanished code _ | .unsupportedOperation code _ | .hardwareFault code _
  | .unsatisfiedConstraints code _ | .illegalOperation code _ | .protocolError code _
  | .timeExpired code _ | .interrupted _ code _ | .noFileOrDirectory _ code _
  | .invalidArgument _ code _ | .permissionDenied _ code _ | .resourceExhausted _ code _
  | .inappropriateType _ code _ | .noSuchThing _ code _ => .ofCode code
  | .unexpectedEof => .described .other "unexpected end of file"
  | .userError text => .described .other text

/-- What an operation gives, or the fault that stopped it. -/
def attempt {α : Type} (operation : IO α) : IO (Except FileFault α) := do
  try
    return .ok (← operation)
  catch e =>
    return .error (.ofError e)

/-- The place of a path in the file system. -/
def Path.located (p : Path) :=
  Functor.map (· / p.text) IO.currentDir

/-- The files and directories directly inside a directory, sorted by name. -/
def Path.entries (p : Path) : IO (Except FileFault (List Entry)) := do
  let place ← p.located
  match ← attempt place.metadata with
  | .error fault => return .error fault
  | .ok found =>
    if found.type != .dir then return .error .regularFile
    attempt do
      let mut entries : List Entry := []
      for e in ← place.readDir do
        match (← e.path.symlinkMetadata).type with
        | .dir => entries := ⟨e.fileName, p.join e.fileName, true⟩ :: entries
        | .file => entries := ⟨e.fileName, p.join e.fileName, false⟩ :: entries
        | _ => pure ()
      return entries.mergeSort fun a b => a.name ≤ b.name

/-- What was seen of a file system. -/
structure Snapshot where
  /-- The listings of directories. -/
  listings : List (Path × Except FileFault (List Entry))
  /-- The contents of files. -/
  contents : List (Path × Except FileFault (List UInt8))

namespace Snapshot

/-- Look at a directory and at those so many levels below it. -/
def lookBelow (root : Path) : (levels : Nat) → IO (List (Path × Except FileFault (List Entry)))
  | 0 => return []
  | levels + 1 => do
    let found ← root.entries
    let inner := (found.toOption.getD []).filter (·.isDirectory)
    let below ← inner.mapM fun e => lookBelow e.path levels
    return (root, found) :: below.flatten

/-- The number of levels of directories that a request is about. -/
def levels : Request → Nat
  | .list directory => (Disk.steps directory).length + 1
  | _ => 1

/-- Look at what an invocation is about. -/
def take (i : Invocation) : IO Snapshot := do
  let found ← lookBelow i.root (levels i.request)
  let entries := ((found.lookup i.root).bind Except.toOption).getD []
  let files := (entries.filter fun e => !e.isDirectory).map (·.path)
  let settings := i.settingsFile.getD (i.root.join Settings.fileName)
  let contents ← (settings :: files).mapM fun path => do
    return (path, (← attempt (IO.FS.readBinFile path.text)).map (·.toList))
  return ⟨found, contents⟩

/-- A snapshot as a project sees it. -/
def storage (s : Snapshot) : Storage where
  list := fun p => (s.listings.lookup p).getD (.error .missing)
  read := fun p => (s.contents.lookup p).getD (.error .missing)
  isFile := fun p => ((s.contents.lookup p).bind Except.toOption).isSome

end Snapshot

/-- Whether a notice is shown. -/
def Verbosity.shows : Verbosity → Level → Bool
  | quiet, _ => false
  | normal, level => level != .debug
  | verbose, _ => true

/-- Print what is left of a call of the program and give its exit code. -/
def Finished.print (f : Finished) : IO UInt32 := do
  IO.print f.output
  IO.eprint f.errorText
  return f.code.toUInt32

/-- Carry out what an invocation comes to. -/
def Outcome.perform : Outcome → IO Finished
  | .print text => return .success text
  | .save path text => do
    match ← attempt (IO.FS.writeFile path.text text) with
    | .ok () => return .success ""
    | .error fault => return .failed (.save fault)
  | .launch l => return .failed (.start l.line (.system 38))
  | .failed f => return .failed f

end DesignAtlas

open DesignAtlas in
/-- The program. -/
def main (arguments : List String) : IO UInt32 := do
  match Invocation.ofArguments arguments with
  | .error i => (Finished.ofInterruption i).print
  | .ok i =>
    let storage := (← Snapshot.take i).storage
    for notice in (Project.ofRoot i.root).analyzeNotices storage .inOrder do
      if i.verbosity.shows notice.level then
        IO.eprintln (notice.level.name ++ " " ++ notice.text)
    (← (i.outcome storage .inOrder).perform).print
