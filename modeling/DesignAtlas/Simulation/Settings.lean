/-!
# Simulation settings

Where a compilation writes its result and where a simulation's output goes. Settings come from
defaults, a project's settings file, and overrides, the later ones winning.
-/

namespace DesignAtlas

/-- Where the results of compiling and simulating a module go. -/
structure Settings where
  /-- The file that the compiler writes. -/
  compileOutput : String
  /-- The file that takes the output of the simulation. The empty name leaves it on the
  terminal. -/
  simulationOutput : String
  deriving DecidableEq, Repr

namespace Settings

/-- The settings of a project that says nothing about them. -/
def default : Settings :=
  { compileOutput := "a.out", simulationOutput := "" }

/-- The settings with some of them overridden. -/
def withOverrides (s : Settings) (compileOutput simulationOutput : Option String) : Settings :=
  { compileOutput := compileOutput.getD s.compileOutput
    simulationOutput := simulationOutput.getD s.simulationOutput }

/-- A text between double quotes. -/
def quoted (text : String) : String :=
  "\"" ++ text ++ "\""

/-- The file that the compiler writes, between quotes. -/
def quotedCompileOutput (s : Settings) : String :=
  quoted s.compileOutput

/-- The file that takes the output of the simulation, between quotes, if there is one. -/
def quotedSimulationOutput? (s : Settings) : Option String :=
  if s.simulationOutput = "" then none else some (quoted s.simulationOutput)

end Settings

end DesignAtlas
