import DesignAtlas.Failure
import DesignAtlas.Simulation.Settings
import DesignAtlas.Storage.Basic
import DesignAtlas.Text.Utf8
import DesignAtlas.Toml.Document

/-!
# Settings files

A project keeps its simulation settings in a TOML file in its root directory. The table
`simulation` holds them under the keys `compile_output_file` and `vvp_output_file`, or an array of
that name lists the two values in this order. Missing values have their defaults, and anything
else in the file is ignored.
-/

namespace DesignAtlas.Settings

open Toml (Value)

/-- The name of the settings file in a project's root directory. -/
def fileName : String := ".veritree.toml"

/-- The text that a value holds, or the default for a missing one. Other values are errors. -/
def textOr (default : String) : Option Value → Option String
  | none => some default
  | some (.text s) => some s
  | some _ => none

/-- The settings whose values are given. -/
def ofValues (compileOutput simulationOutput : Option Value) : Option Settings := do
  let compileOutput ← textOr default.compileOutput compileOutput
  let simulationOutput ← textOr default.simulationOutput simulationOutput
  return { compileOutput, simulationOutput }

/-- The settings in the value of `simulation`. A date says nothing about them. -/
def ofValue? : Value → Option Settings
  | .table entries =>
    ofValues (Value.find? entries "compile_output_file") (Value.find? entries "vvp_output_file")
  | .list items => ofValues items[0]? items[1]?
  | .dateTime _ => some default
  | _ => none

/-- The settings in a document. -/
def ofDocument? (entries : List (String × Value)) : Option Settings :=
  match Value.find? entries "simulation" with
  | none => some default
  | some v => ofValue? v

/-- The settings in the text of a settings file. -/
def ofText? (text : String) : Option Settings :=
  (Toml.document? text).bind ofDocument?

/-- Read a settings file. -/
def loadFile (storage : Storage) (path : Path) : Except Failure Settings :=
  match storage.read path with
  | .error fault => .error (.file path fault)
  | .ok bytes =>
    match Text.Utf8.decode? bytes with
    | none => .error (.file path .invalidText)
    | some text =>
      match ofText? text with
      | some settings => .ok settings
      | none => .error (.settings path "no valid simulation settings")

/-- The settings of a project: those of its settings file, or the defaults if it has none. -/
def load (storage : Storage) (root : Path) : Except Failure Settings :=
  let path := root.join fileName
  if storage.isFile path then loadFile storage path else .ok default

end DesignAtlas.Settings
