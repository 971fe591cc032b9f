import DesignAtlas.Json.Writer
import DesignAtlas.Path
import DesignAtlas.Simulation.Command

/-!
# Invocations

What the program is asked to do, as it follows from its arguments.
-/

namespace DesignAtlas

/-- How much is reported about the work. -/
inductive Verbosity where
  /-- Failures only. -/
  | quiet
  /-- Every step. -/
  | normal
  /-- Every step and its details. -/
  | verbose
  deriving DecidableEq, Repr

/-- How an action on a module is to be carried out. -/
structure ActionRequest where
  /-- What is to be done. -/
  action : Action
  /-- The module, as `name` or `name@file`. -/
  query : String
  /-- Print the command line instead of running it. -/
  dryRun : Bool
  /-- The shell to write the command line for. -/
  shell : ShellKind
  /-- The file that the compiler writes, if not the one of the settings. -/
  compileOutput : Option String
  /-- The file that takes the output of the simulation, if not the one of the settings. -/
  simulationOutput : Option String
  deriving DecidableEq, Repr

/-- What the program is asked for. -/
inductive Request where
  /-- Show the whole project, as a document if a layout is given, in a file if one is named. -/
  | tree (layout : Option Json.Layout) (output : Option Path)
  /-- List the files to compile for a module. -/
  | files (query : String)
  /-- Check, compile or run a module. -/
  | act (request : ActionRequest)
  /-- List a directory of the project. -/
  | list (directory : String)
  deriving DecidableEq, Repr

/-- A request with the project it is about. -/
structure Invocation where
  /-- The root directory of the project. -/
  root : Path
  /-- The settings file, if not the one in the root directory. -/
  settingsFile : Option Path
  /-- How much is reported. -/
  verbosity : Verbosity
  /-- What is asked for. -/
  request : Request
  deriving DecidableEq, Repr

end DesignAtlas
