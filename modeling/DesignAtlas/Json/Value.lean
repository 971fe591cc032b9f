/-!
# JSON values

The values that a document is made of. An object keeps its fields in the order given.
-/

namespace DesignAtlas.Json

/-- A JSON value. -/
inductive Value where
  /-- The absent value. -/
  | null
  /-- A number without sign, fraction and exponent. -/
  | number (n : Nat)
  /-- A string. -/
  | text (s : String)
  /-- An array. -/
  | list (items : List Value)
  /-- An object. -/
  | object (fields : List (String × Value))

namespace Value

/-- The string that is there, or the absent value. -/
def ofOption (s : Option String) : Value :=
  match s with
  | some s => text s
  | none => null

/-- An array of strings. -/
def texts (items : List String) : Value :=
  list (items.map text)

/-- An array of numbers. -/
def numbers (items : List Nat) : Value :=
  list (items.map number)

end Value

end DesignAtlas.Json
