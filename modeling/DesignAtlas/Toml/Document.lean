import DesignAtlas.Toml.Entries
import DesignAtlas.Toml.Lexeme
import DesignAtlas.Toml.Number

/-!
# TOML documents

A document is a sequence of lines: assignments, headers, comments and blank lines. Assignments
belong to the header above them.

* `document?` reads a text as a document and gives its table. It fails exactly where the text is
  malformed, a key is defined twice, or values are nested too deeply.
-/

namespace DesignAtlas.Toml

open Text Reader

/-- An assignment: the tables on the way, the last part of the key, and the value. -/
abbrev Assignment := List String × String × Value

/-- Read the key and the value of an assignment. -/
def assignment (value : Reader Value) : Reader Assignment := do
  let parts ← key
  let _ ← exactly '='
  blanks
  let v ← value
  return (parts.dropLast, parts.getLast?.getD "", v)

/-- Read an array of values. -/
def array (value : Reader Value) : Reader Value := do
  let _ ← exactly '['
  let item := do anyBlanks; let v ← value; anyBlanks; return v
  let items ← optional do
    let items ← separated1 item (exactly ',')
    let _ ← optional (exactly ',')
    return items
  anyBlanks
  let _ ← exactly ']'
  return .list (items.getD [])

/-- Read a table within a line. -/
def inlineTable (value : Reader Value) : Reader Value := do
  let _ ← exactly '\x7b'
  let item := do let a ← assignment value; blanks; return a
  let items ← optional (separated1 item (exactly ','))
  blanks
  let _ ← exactly '\x7d'
  match Entries.insertAll (items.getD []) [] with
  | some entries => return .table (Entries.toValues entries)
  | none => failure

/-- Read a value that is no array and no table. -/
def scalar : Reader Value :=
  (do return .text (← quotedText)) <|> dateTime <|> float <|> integer <|>
    (do word "true".toList; return .boolean true) <|>
    (do word "false".toList; return .boolean false)

/-- Read a value with at most so many arrays and tables inside each other. -/
def value : (depth : Nat) → Reader Value
  | 0 => scalar
  | depth + 1 => scalar <|> array (value depth) <|> inlineTable (value depth)

/-- A line of a document that says something. -/
inductive Line where
  /-- The assignment of a value to a key. -/
  | assign (a : Assignment)
  /-- The header of a table. -/
  | table (key : List String)
  /-- The header of a table in an array of tables. -/
  | arrayItem (key : List String)

/-- Read a line. A blank line and a comment say nothing. -/
def line : Reader (Option Line) := do
  blanks
  (do
    word ['[', '[']
    let parts ← key
    word [']', ']']
    lineEnd
    return some (.arrayItem parts)) <|>
    (do word ['[']; let parts ← key; word [']']; lineEnd; return some (.table parts)) <|>
    (do let a ← assignment (value (maxDepth - 1)); lineEnd; return some (.assign a)) <|>
    (do let _ ← optional comment; newline <|> atEnd; return none)

/-- A header with the assignments below it. -/
structure Section where
  /-- Add the table of the section to a document. -/
  add : List Assignment → Entries → Option Entries
  /-- The assignments of the section. -/
  assignments : List Assignment

/-- The section that a header opens. -/
def Section.ofHeader (add : List Assignment → List String → String → Entries → Option Entries)
    (parts : List String) : Section :=
  ⟨fun assignments => add assignments parts.dropLast (parts.getLast?.getD ""), []⟩

/-- Sort lines into sections, the current one first. -/
def sections (current : Section) : List Line → List Section
  | [] => [current]
  | .assign a :: lines => sections ⟨current.add, current.assignments ++ [a]⟩ lines
  | .table parts :: lines => current :: sections (.ofHeader Entries.defineTable parts) lines
  | .arrayItem parts :: lines => current :: sections (.ofHeader Entries.appendTable parts) lines

/-- The table that lines define. -/
def tableOf (lines : List Line) : Option Entries :=
  (sections ⟨Entries.insertAll, []⟩ lines).foldlM
    (fun entries part => part.add part.assignments entries) []

/-- The table that a text defines. A byte order mark in front is ignored. -/
def document? (text : String) : Option (List (String × Value)) := do
  let lines ← (optional (exactly '\uFEFF') *> many line).readAll text.toList
  let entries ← tableOf (lines.filterMap id)
  return Entries.toValues entries

end DesignAtlas.Toml
