/-!
# Blanks

Two notions of a blank. Between the symbols of a source text the five ASCII blanks separate;
behind the keyword that opens a module every character with Unicode's `White_Space` property
does.

* `skipBlanks` drops the leading ASCII blanks and nothing else.
-/

namespace DesignAtlas.Text

/-- Whether a character is a space, a tab, a line feed, a carriage return or a form feed. -/
def isBlank (c : Char) : Bool :=
  c == ' ' || c == '\t' || c == '\n' || c == '\r' || c == '\x0c'

/-- Whether a character has Unicode's `White_Space` property. -/
def isWhiteSpace (c : Char) : Bool :=
  (0x09 ≤ c.toNat && c.toNat ≤ 0x0D) || c.toNat == 0x20 || c.toNat == 0x85 || c.toNat == 0xA0 ||
  c.toNat == 0x1680 || (0x2000 ≤ c.toNat && c.toNat ≤ 0x200A) || c.toNat == 0x2028 ||
  c.toNat == 0x2029 || c.toNat == 0x202F || c.toNat == 0x205F || c.toNat == 0x3000

/-- The text from its first character that is no ASCII blank. -/
def skipBlanks (text : List Char) : List Char :=
  text.dropWhile isBlank

/-- An ASCII blank is white space in Unicode's sense too. -/
theorem isWhiteSpace_of_isBlank {c : Char} (h : isBlank c = true) : isWhiteSpace c = true := by
  simp only [isBlank, Bool.or_eq_true, beq_iff_eq] at h
  rcases h with (((h | h) | h) | h) | h <;> subst h <;> decide

@[simp]
theorem skipBlanks_nil : skipBlanks [] = [] := rfl

/-- Skipping blanks leaves a suffix of the text. -/
theorem skipBlanks_suffix (text : List Char) : skipBlanks text <:+ text :=
  List.dropWhile_suffix _

/-- What is left starts with no blank. -/
theorem isBlank_of_skipBlanks_eq_cons {text rest : List Char} {c : Char}
    (h : skipBlanks text = c :: rest) : isBlank c = false := by
  have := List.head?_dropWhile_not isBlank text
  rw [skipBlanks] at h
  simpa [h] using this

end DesignAtlas.Text
