import DesignAtlas.Failure
import DesignAtlas.Shell.Ending

/-!
# Failure reports

Why an invocation failed, and the report that is written about it: what could not be done, and
below it the chain of causes. A single cause is indented; several are numbered from the nearest
one on.
-/

namespace DesignAtlas

/-- Why an invocation failed. -/
inductive CommandFailure where
  /-- The project could not be analyzed. -/
  | analysis (root : Path) (cause : Failure)
  /-- The project could not do what was asked. -/
  | project (cause : Failure)
  /-- The project's root directory holds no directory of this name. -/
  | noRootFolder (name : String)
  /-- On the way to the directory asked for there is no directory of this name. -/
  | noFolder (name directory : String)
  /-- A file could not be written. -/
  | save (fault : FileFault)
  /-- No shell could be started for the command line. -/
  | start (line : String) (fault : FileFault)
  /-- The command line was run and failed. -/
  | ran (line : String) (ending : Shell.Ending)
  deriving DecidableEq, Repr

/-- The causes below a failure. -/
def Failure.causes : Failure → List String
  | .file _ fault => [fault.text]
  | _ => []

namespace CommandFailure

/-- What could not be done. -/
def heading : CommandFailure → String
  | analysis root _ => "failed to analyze " ++ root.text
  | project cause => cause.message
  | noRootFolder name => "no directory named '" ++ name ++ "' in project root"
  | noFolder name directory => "no directory named '" ++ name ++ "' in '" ++ directory ++ "'"
  | save fault => fault.text
  | start line _ => "failed to start shell for `" ++ line ++ "`"
  | ran line ending => "command exited with " ++ ending.text ++ ": " ++ line

/-- The causes, the nearest first. -/
def causes : CommandFailure → List String
  | analysis _ cause => cause.message :: cause.causes
  | project cause => cause.causes
  | start _ fault => [fault.text]
  | _ => []

/-- A cause as it stands in a report: its first line behind a label, and its other lines indented
as far. -/
def indented (label : List Char) (cause : String) : List Char :=
  label ++ cause.toList.flatMap fun c =>
    if c = '\n' then '\n' :: List.replicate label.length ' ' else [c]

/-- The label of the cause of a number, if the causes are numbered. -/
def label (number : Nat) : List Char :=
  let digits := Nat.toDigits 10 number
  List.replicate (5 - digits.length) ' ' ++ digits ++ [':', ' ']

/-- The causes in a report, each on lines of its own. -/
def causeLines (causes : List String) : List (List Char) :=
  match causes with
  | [cause] => [indented "    ".toList cause]
  | causes => causes.zipIdx.map fun entry => indented (label entry.2) entry.1

/-- The report on a failure. -/
def report (f : CommandFailure) : String :=
  let causes :=
    if f.causes = [] then []
    else "\n\nCaused by:".toList ++ (causeLines f.causes).flatMap fun line => '\n' :: line
  "Error: " ++ f.heading ++ String.ofList causes ++ "\n"

end CommandFailure

end DesignAtlas
