import DesignAtlas.Source.Lexeme
import DesignAtlas.Text.Search

/-!
# Instantiations in a module body

A body instantiates a module where the module's name stands at the start of an identifier and is
followed by an optional parameter block `#( … )`, blanks, the instance's name, and a port list
with its semicolon.

* `instanceNames` lists the names that a body gives to its instances of one module.
-/

namespace DesignAtlas.Source

open Text

/-- The text behind an optional parameter block. A `#` that no parenthesis follows is left for the
next reader; a block that is opened has to be closed. -/
def behindOverrides? (text : List Char) : Option (List Char) :=
  match skipBlanks text with
  | '#' :: rest =>
    match skipBlanks rest with
    | '(' :: block => closing? 0 block
    | _ => some text
  | _ => some text

/-- The instance's name, where `text` is what follows the name of the module. -/
def instanceName? (text : List Char) : Option (List Char) := do
  let rest ← behindOverrides? text
  if rest.head?.any isBlank then
    let (name, behind) ← identifier? (skipBlanks rest)
    let _ ← portList? none (skipBlanks behind)
    return name
  else none

/-- The instance's name at a place where the name of the module stands. -/
def instanceAt? (moduleName : List Char) (c : Cursor) : Option (List Char) :=
  if isBoundary c.previous? then instanceName? (c.rest.drop moduleName.length) else none

/-- The names that `body` gives to its instances of the module, from left to right. -/
def instanceNames (body moduleName : String) : List String :=
  (occurrences moduleName.toList body.toList).filterMap fun c =>
    (instanceAt? moduleName.toList c).map String.ofList

end DesignAtlas.Source
