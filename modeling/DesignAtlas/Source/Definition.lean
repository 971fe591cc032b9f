import DesignAtlas.Source.Lexeme
import DesignAtlas.Text.Search
import DesignAtlas.Text.WordChar

/-!
# Module definitions

A definition is a header, a body and the keyword `endmodule`. The header is the keyword `module`
at the start of a word, white space, the module's name, an optional parameter block `#( … )` and
either a port list or nothing before a semicolon. The body is everything up to the first
`endmodule` behind that semicolon. Comments and strings are text like any other.

* `definitions` lists the definitions of a source text from left to right. A header that no
  definition follows is passed over up to its name, a definition up to its `endmodule`.
-/

namespace DesignAtlas.Source

open Text

/-- A module definition as it stands in a source text. -/
structure Definition where
  /-- The name of the module. -/
  name : String
  /-- The text between the semicolon of the header and `endmodule`. -/
  body : String
  /-- The number of line feeds before the keyword `module`. -/
  line : Nat
  deriving DecidableEq, Repr

/-- The keyword that opens a definition. -/
def openKeyword : List Char := "module".toList

/-- The keyword that ends a definition. -/
def endKeyword : List Char := "endmodule".toList

/-- The text from the name on, if a header opens at the start of the text: the keyword at the
start of a word, white space, and the first character of a name. -/
def headerName? (previous : Option Char) (text : List Char) : Option (List Char) :=
  if previous.any isWordChar then none
  else if openKeyword.isPrefixOf text then
    let behind := text.drop openKeyword.length
    let name := behind.dropWhile isWhiteSpace
    if behind.head?.any isWhiteSpace && name.head?.any isIdentifierStart then some name else none
  else none

/-- The text behind the parameter block, or the whole text if no `#` opens one. A `#` without a
balanced block is an error. -/
def behindParameters? : List Char → Option (List Char)
  | '#' :: rest => (balanced? (skipBlanks rest)).map skipBlanks
  | text => some text

/-- The text behind the port list and the semicolon of a header. -/
def behindPorts? : List Char → Option (List Char)
  | ';' :: rest => some rest
  | text => portList? (some endKeyword) text

/-- A definition cut into its name, its body and the text behind it. -/
structure DefinitionText where
  /-- The name of the module. -/
  name : List Char
  /-- The text between the semicolon of the header and `endmodule`. -/
  body : List Char
  /-- The text behind `endmodule`. -/
  rest : List Char
  deriving DecidableEq

/-- The definition whose name starts the text. -/
def definitionText? (text : List Char) : Option DefinitionText := do
  let (name, behindName) ← identifier? text
  let ports ← behindParameters? (skipBlanks behindName)
  let behindHeader ← behindPorts? ports
  let (body, rest) ← cut? endKeyword behindHeader
  return { name, body, rest }

theorem headerName?_suffix {previous : Option Char} {text name : List Char}
    (h : headerName? previous text = some name) : name <:+ text := by
  simp only [headerName?] at h
  split at h
  · simp at h
  · split at h
    · split at h
      · cases h
        exact (List.dropWhile_suffix _).trans (List.drop_suffix _ _)
      · simp at h
    · simp at h

theorem length_lt_of_headerName? {previous : Option Char} {text name : List Char}
    (h : headerName? previous text = some name) : name.length < text.length := by
  simp only [headerName?] at h
  split at h
  · simp at h
  · split at h
    · next hk =>
      have hpos : 0 < openKeyword.length := by decide
      have hkey := (List.isPrefixOf_iff_prefix.1 hk).length_le
      split at h
      · cases h
        have := (List.dropWhile_suffix isWhiteSpace
          (l := text.drop openKeyword.length)).length_le
        simp only [List.length_drop] at this
        omega
      · simp at h
    · simp at h

theorem behindParameters?_suffix {text rest : List Char} (h : behindParameters? text = some rest) :
    rest <:+ text := by
  unfold behindParameters? at h
  split at h
  · obtain ⟨behind, hb, rfl⟩ := Option.map_eq_some_iff.1 h
    exact (skipBlanks_suffix _).trans
      ((balanced?_suffix hb).trans ((skipBlanks_suffix _).trans (List.suffix_cons _ _)))
  · cases h
    exact List.suffix_rfl

theorem behindPorts?_suffix {text rest : List Char} (h : behindPorts? text = some rest) :
    rest <:+ text := by
  unfold behindPorts? at h
  split at h
  · cases h
    exact List.suffix_cons _ _
  · exact portList?_suffix h

/-- What follows a definition is a suffix of the text. -/
theorem definitionText?_suffix {text : List Char} {d : DefinitionText}
    (h : definitionText? text = some d) : d.rest <:+ text := by
  simp only [definitionText?, Option.bind_eq_bind, Option.bind_eq_some_iff] at h
  obtain ⟨⟨name, behindName⟩, hn, ports, hp, header, hh, ⟨body, rest⟩, hc, hd⟩ := h
  cases hd
  have h₁ : rest <:+ header := by
    rw [eq_append_of_cut?_eq_some hc, ← List.append_assoc]
    exact List.suffix_append _ _
  have h₂ : behindName <:+ text := by
    rw [eq_append_of_identifier? hn]
    exact List.suffix_append _ _
  exact h₁.trans ((behindPorts?_suffix hh).trans
    ((behindParameters?_suffix hp).trans ((skipBlanks_suffix _).trans h₂)))

/-- The definitions from a place on. -/
def definitionsFrom (c : Cursor) : List Definition :=
  if _hc : c.rest = [] then []
  else
    match _hn : headerName? c.previous? c.rest with
    | none => definitionsFrom (c.advance 1)
    | some name =>
      match _hd : definitionText? name with
      | none => definitionsFrom (c.moveTo name)
      | some d =>
        { name := String.ofList d.name, body := String.ofList d.body, line := c.line } ::
          definitionsFrom (c.moveTo d.rest)
termination_by c.rest.length
decreasing_by
  · have := List.length_pos_iff.2 _hc
    simp only [Cursor.length_rest_advance]
    omega
  · rw [Cursor.rest_moveTo (headerName?_suffix _hn)]
    exact length_lt_of_headerName? _hn
  · have := (definitionText?_suffix _hd).length_le
    rw [Cursor.rest_moveTo ((definitionText?_suffix _hd).trans (headerName?_suffix _hn))]
    exact Nat.lt_of_le_of_lt this (length_lt_of_headerName? _hn)

/-- The module definitions of a source text, from left to right. -/
def definitions (text : String) : List Definition :=
  definitionsFrom (Cursor.start text.toList)

end DesignAtlas.Source
