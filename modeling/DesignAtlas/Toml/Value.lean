/-!
# TOML values

The values of a TOML document. Floats and dates are kept as they were written.
-/

namespace DesignAtlas.Toml

/-- A TOML value. -/
inductive Value where
  /-- A string. -/
  | text (s : String)
  /-- An integer. -/
  | integer (n : Int)
  /-- A float, as written. -/
  | float (literal : String)
  /-- A truth value. -/
  | boolean (b : Bool)
  /-- A date, a time, or both, as written. -/
  | dateTime (literal : String)
  /-- An array. -/
  | list (items : List Value)
  /-- A table. -/
  | table (entries : List (String × Value))

/-- The value of a key in a table. -/
def Value.find? (entries : List (String × Value)) (key : String) : Option Value :=
  entries.lookup key

end DesignAtlas.Toml
