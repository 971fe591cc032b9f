import DesignAtlas.Path
import DesignAtlas.Storage.Fault

/-!
# Failures

What can go wrong with a project as a whole, and how it is worded.
-/

namespace DesignAtlas

/-- Why a request to a project failed. -/
inductive Failure where
  /-- Listing a directory or reading a file failed. -/
  | file (path : Path) (fault : FileFault)
  /-- A settings file does not say what it should. -/
  | settings (path : Path) (message : String)
  /-- No module fits the query. -/
  | moduleNotFound (query : String)
  /-- The project has not been analyzed. -/
  | notAnalyzed
  /-- A part of the analysis broke off. -/
  | task (message : String)
  deriving DecidableEq, Repr

/-- What the message of a failure about a settings file starts with. -/
def Failure.settingsHeading (path : Path) : String :=
  "invalid config file '" ++ path.text ++ "':"

/-- The message of a failure. -/
def Failure.message : Failure → String
  | file path fault => path.text ++ ": " ++ fault.kind.text ++ " (" ++ fault.text ++ ")"
  | settings path message => settingsHeading path ++ " " ++ message
  | moduleNotFound query => "module '" ++ query ++ "' not found in project"
  | notAnalyzed => "project has not been analyzed yet"
  | task message => "analysis task failed: " ++ message

/-- The kind of fault behind a failure of the file system. -/
def Failure.faultKind? : Failure → Option FaultKind
  | file _ fault => some fault.kind
  | _ => none

end DesignAtlas
