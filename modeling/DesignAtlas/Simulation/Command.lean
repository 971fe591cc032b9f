import DesignAtlas.Simulation.Settings

/-!
# Simulation commands

The command lines that check, compile and run one module with the Icarus Verilog tools. A command
is a list of words, typed into a shell with single blanks between them.
-/

namespace DesignAtlas

/-- The shells that a command line can be written for. -/
inductive ShellKind where
  /-- A POSIX shell. -/
  | posix
  /-- Windows PowerShell. -/
  | powershell
  deriving DecidableEq, Repr

/-- What is to be done with a module. -/
inductive Action where
  /-- Elaborate it without producing output. -/
  | check
  /-- Compile it. -/
  | compile
  /-- Compile it and simulate the result. -/
  | run
  deriving DecidableEq, Repr

namespace Action

/-- The words that elaborate a module. -/
def checkWords (module : String) : List String :=
  ["iverilog", "-s", module, "-t", "null", "-Wall", "*.v"]

/-- The words that compile a module. -/
def compileWords (module : String) (s : Settings) : List String :=
  ["iverilog", "-s", module, "-Wall", "-o", s.quotedCompileOutput, "*.v"]

/-- The words that simulate what was compiled. -/
def simulateWords (s : Settings) : List String :=
  ["vvp", s.quotedCompileOutput] ++ s.quotedSimulationOutput?.elim [] fun file => [">", file]

/-- The words that compile a module and, if that succeeds, simulate it. -/
def runWords (module : String) (s : Settings) (shell : ShellKind) : List String :=
  match shell with
  | .posix => compileWords module s ++ ["&&"] ++ simulateWords s
  | .powershell => compileWords module s ++ ["; if($?) \x7b"] ++ simulateWords s ++ ["\x7d"]

/-- The words of the command for an action. -/
def words (action : Action) (module : String) (s : Settings) (shell : ShellKind) : List String :=
  match action with
  | check => checkWords module
  | compile => compileWords module s
  | run => runWords module s shell

/-- The command line of a list of words. -/
def commandLine (words : List String) : String :=
  " ".intercalate words

end Action

end DesignAtlas
