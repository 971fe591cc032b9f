import DesignAtlas.Toml.Value

/-!
# Tables under construction

While a document is read its tables still grow, and how a table came about decides what may be
added to it: a table with a header of its own is complete, a table that a longer header implies
may still get its own header, and a table that dotted keys made grows by dotted keys only.

* `insert` adds an assignment below a table.
* `defineTable` and `appendTable` add what a header opens.
-/

namespace DesignAtlas.Toml

/-- How a table came about. -/
inductive Origin where
  /-- By a header, or as the document itself. -/
  | header
  /-- By a header further below. -/
  | implied
  /-- By a dotted key. -/
  | dotted
  deriving DecidableEq, Repr

/-- What a key stands for while a document is read. -/
inductive Node where
  /-- A value. -/
  | value (v : Value)
  /-- A table. -/
  | table (origin : Origin) (entries : List (String × Node))
  /-- An array of tables, one a header. -/
  | tables (items : List (List (String × Node)))

/-- The keys of a table with what they stand for. -/
abbrev Entries := List (String × Node)

namespace Entries

/-- Change what a key stands for, or add it. -/
def change (f : Option Node → Option Node) (key : String) : Entries → Option Entries
  | [] => (f none).map fun node => [(key, node)]
  | (known, node) :: others =>
    if known = key then (f (some node)).map fun changed => (known, changed) :: others
    else (change f key others).map fun changed => (known, node) :: changed

/-- Add the assignment of a value to a dotted key. No key is assigned twice. On the way to the last
table a key leads through tables that dotted keys made or longer headers imply, and through an array
of tables into its last table. The last table itself grows only if dotted keys made it. -/
def insert (v : Value) (last : String) : (path : List String) → Entries → Option Entries
  | [], entries =>
    entries.change (fun
      | none => some (.value v)
      | some _ => none) last
  | key :: path, entries =>
    entries.change (fun
      | none => (insert v last path []).map (.table .dotted)
      | some (.table origin inner) =>
        if origin = .header ∨ (path = [] ∧ origin ≠ .dotted) then none
        else (insert v last path inner).map (.table origin)
      | some (.tables items) =>
        match items.getLast? with
        | some inner =>
          if path = [] then none
          else (insert v last path inner).map fun changed => .tables (items.dropLast ++ [changed])
        | none => none
      | some (.value _) => none) key

/-- Add several assignments. -/
def insertAll (assignments : List (List String × String × Value)) (entries : Entries) :
    Option Entries :=
  assignments.foldlM (fun entries (path, last, v) => entries.insert v last path) entries

/-- Change what the last part of a header's key stands for. Tables on the way are made where they
are missing; an array of tables leads into its last table. -/
def changeBelow (f : Option Node → Option Node) (last : String) :
    (path : List String) → Entries → Option Entries
  | [], entries => entries.change f last
  | key :: path, entries =>
    entries.change (fun
      | none => (changeBelow f last path []).map (.table .implied)
      | some (.table origin inner) => (changeBelow f last path inner).map (.table origin)
      | some (.tables items) =>
        match items.getLast? with
        | some inner =>
          (changeBelow f last path inner).map fun changed => .tables (items.dropLast ++ [changed])
        | none => none
      | some (.value _) => none) key

/-- Add the table that a header opens, with its assignments. The table may have been implied
before, but not defined. -/
def defineTable (assignments : List (List String × String × Value)) (path : List String)
    (last : String) (entries : Entries) : Option Entries :=
  entries.changeBelow (fun
    | none => (insertAll assignments []).map (.table .header)
    | some (.table .implied inner) => (insertAll assignments inner).map (.table .header)
    | some _ => none) last path

/-- Append the table that a header opens to an array of tables, with its assignments. -/
def appendTable (assignments : List (List String × String × Value)) (path : List String)
    (last : String) (entries : Entries) : Option Entries :=
  entries.changeBelow (fun
    | none => (insertAll assignments []).map fun table => .tables [table]
    | some (.tables items) =>
      (insertAll assignments []).map fun table => .tables (items ++ [table])
    | some _ => none) last path

end Entries

mutual

/-- The value that a key stands for in the finished document. -/
def Node.toValue : Node → Value
  | .value v => v
  | .table _ entries => .table (Entries.toValues entries)
  | .tables items => .list (Entries.toTables items)

/-- The finished entries of a table. -/
def Entries.toValues : List (String × Node) → List (String × Value)
  | [] => []
  | (key, node) :: others => (key, node.toValue) :: Entries.toValues others

/-- The finished tables of an array. -/
def Entries.toTables : List (List (String × Node)) → List Value
  | [] => []
  | entries :: others => .table (Entries.toValues entries) :: Entries.toTables others

end

end DesignAtlas.Toml
