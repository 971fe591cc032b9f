import DesignAtlas.CommandLine.Outcome
import DesignAtlas.Shell.Evaluation

/-!
# Completion

What is left of a call of the program: an exit code, and what stands on its output and error
channels. The error channel takes the errors of a command line and then the report on a failure.

* `Outcome.carryOut` writes the file or runs the command line that an outcome asks for.
* `complete` takes a call of the program from its arguments to its end.
-/

namespace DesignAtlas

open Text

/-- The name and version of the program, as it prints them. -/
def versionText : String := "veritree 0.1.0\n"

/-- How the program is used. -/
def usageText : String :=
  "Usage: veritree [-r DIR] [-c FILE] [-v | -q] COMMAND\n\n" ++
  "Commands:\n" ++
  "  tree [--json [--compact]] [-o FILE]  show the project\n" ++
  "  files MODULE                         list the files to compile for a module\n" ++
  "  check MODULE                         check a module without output\n" ++
  "  compile MODULE                       compile a module\n" ++
  "  run MODULE                           compile a module and simulate it\n" ++
  "  ls DIR                               list a directory of the project\n"

/-- What is left of a call of the program. -/
structure Finished where
  /-- The exit code. -/
  code : Nat
  /-- The text on the output channel. -/
  output : String
  /-- The text on the error channel that is no report on a failure. -/
  errors : String
  /-- Why the call failed, if there is a report on it. -/
  failure : Option CommandFailure
  deriving DecidableEq, Repr

namespace Finished

/-- The call did what was asked. -/
def success (output : String) : Finished :=
  ⟨0, output, "", none⟩

/-- The call failed. -/
def failed (f : CommandFailure) : Finished :=
  ⟨1, "", "", some f⟩

/-- The arguments ask for nothing to be carried out. -/
def ofInterruption : Interruption → Finished
  | .usage => ⟨2, "", usageText, none⟩
  | .help => success usageText
  | .version => success versionText

/-- A command line was run. -/
def ofRan (l : Launch) (ran : Shell.Ran) : Finished :=
  let output := Utf8.decodeLossy ran.output
  let errors := Utf8.decodeLossy ran.errors
  if ran.ending = .exited 0 then ⟨0, output, errors, none⟩
  else ⟨1, output, errors, some (.ran l.line ran.ending)⟩

/-- All of the error channel. -/
def errorText (f : Finished) : String :=
  f.errors ++ (f.failure.map CommandFailure.report).getD ""

end Finished

/-- Run a command line on a disk, with the directories that programs are looked up in. -/
def Launch.carryOut (disk : Disk) (searchPath : String) (l : Launch) : Disk × Finished :=
  let (name, arguments) := l.words
  let text := Shell.ByteText.ofText
  let ran? : Except FileFault Shell.Ran :=
    if l.line.toList.contains '\x00' then .error .nulInArgument
    else
      match disk.locate l.directory with
      | .error fault => .error fault
      | .ok directory =>
        Shell.startProgram disk (text searchPath) directory (text name) (arguments.map text)
  match ran? with
  | .error fault => (disk, .failed (.start l.line fault))
  | .ok ran => (ran.disk, .ofRan l ran)

/-- Carry out an outcome on a disk. A file that stands for a channel of the program leads there. -/
def Outcome.carryOut (disk : Disk) (searchPath : String) : Outcome → Disk × Finished
  | .print text => (disk, .success text)
  | .save path text =>
    match disk.write path (Utf8.encode text) with
    | .error fault => (disk, .failed (.save fault))
    | .ok written =>
      match disk.nodeAt path with
      | .ok (.device (.descriptor 1)) => (written, .success text)
      | .ok (.device (.descriptor 2)) => (written, ⟨0, "", text, none⟩)
      | _ => (written, .success "")
  | .launch l => l.carryOut disk searchPath
  | .failed f => (disk, .failed f)

/-- Call the program with arguments on a disk. -/
def complete (disk : Disk) (schedule : Schedule) (searchPath : String) (arguments : List String) :
    Disk × Finished :=
  match Invocation.ofArguments arguments with
  | .error i => (disk, .ofInterruption i)
  | .ok i => (i.outcome disk.storage schedule).carryOut disk searchPath

end DesignAtlas
