/-!
# Places in a text

A cursor is a place between two characters of a text. It knows what stands on either side, so the
offset in bytes, the line and the character before the place are read off it, and no cursor ever
points into the middle of a character.

* `advance` moves forward and keeps the text.
* `at?` finds the place at an offset in bytes, and fails inside a character or past the end.
-/

namespace DesignAtlas.Text

/-- The number of bytes that a text takes in UTF-8. -/
def byteLength (text : List Char) : Nat :=
  text.foldr (fun c bytes => c.utf8Size + bytes) 0

@[simp]
theorem byteLength_nil : byteLength [] = 0 := rfl

@[simp]
theorem byteLength_cons (c : Char) (text : List Char) :
    byteLength (c :: text) = c.utf8Size + byteLength text := rfl

@[simp]
theorem byteLength_append (first second : List Char) :
    byteLength (first ++ second) = byteLength first + byteLength second := by
  induction first with
  | nil => simp
  | cons c rest ih => simp [ih, Nat.add_assoc]

@[simp]
theorem byteLength_reverse (text : List Char) : byteLength text.reverse = byteLength text := by
  induction text with
  | nil => rfl
  | cons c rest ih => simp [ih, Nat.add_comm]

/-- The characters that start before the byte at `offset`. -/
def charsBefore : (offset : Nat) → List Char → List Char
  | _, [] => []
  | 0, _ :: _ => []
  | offset + 1, c :: rest => c :: charsBefore (offset + 1 - c.utf8Size) rest

end DesignAtlas.Text

namespace DesignAtlas

/-- A place between two characters of a text. -/
structure Cursor where
  /-- The characters before the place, the nearest first. -/
  before : List Char
  /-- The characters from the place on. -/
  rest : List Char
  deriving DecidableEq

namespace Cursor

/-- The place before the first character of a text. -/
def start (text : List Char) : Cursor :=
  ⟨[], text⟩

/-- The whole text around the place. -/
def text (c : Cursor) : List Char :=
  c.before.reverse ++ c.rest

/-- The number of bytes before the place. -/
def offset (c : Cursor) : Nat :=
  Text.byteLength c.before

/-- The number of line feeds before the place. -/
def line (c : Cursor) : Nat :=
  c.before.count '\n'

/-- The character just before the place. -/
def previous? (c : Cursor) : Option Char :=
  c.before.head?

/-- Move forward by `count` characters, or to the end. -/
def advance (c : Cursor) (count : Nat) : Cursor :=
  ⟨(c.rest.take count).reverse ++ c.before, c.rest.drop count⟩

/-- Move forward until only as many characters are left as `rest` has. -/
def moveTo (c : Cursor) (rest : List Char) : Cursor :=
  c.advance (c.rest.length - rest.length)

/-- Move forward by `bytes` bytes, if that place is inside the text and not inside a character. -/
def forward? (before rest : List Char) (bytes : Nat) : Option Cursor :=
  match bytes, rest with
  | 0, rest => some ⟨before, rest⟩
  | _ + 1, [] => none
  | bytes + 1, c :: rest =>
    if c.utf8Size ≤ bytes + 1 then forward? (c :: before) rest (bytes + 1 - c.utf8Size) else none

/-- The place at an offset in bytes, if the text has a character boundary there. -/
def at? (text : List Char) (offset : Nat) : Option Cursor :=
  forward? [] text offset

@[simp]
theorem text_start (text : List Char) : (start text).text = text := rfl

@[simp]
theorem offset_start (text : List Char) : (start text).offset = 0 := rfl

/-- Moving forward keeps the text. -/
@[simp]
theorem text_advance (c : Cursor) (count : Nat) : (c.advance count).text = c.text := by
  simp [advance, text]

@[simp]
theorem text_moveTo (c : Cursor) (rest : List Char) : (c.moveTo rest).text = c.text := by
  simp [moveTo]

/-- The place is never past the end of the text. -/
theorem offset_le (c : Cursor) : c.offset ≤ Text.byteLength c.text := by
  simp [offset, text]

theorem length_rest_advance (c : Cursor) (count : Nat) :
    (c.advance count).rest.length = c.rest.length - count := by
  simp [advance]

/-- Moving to what is left arrives there. -/
theorem rest_moveTo {c : Cursor} {rest : List Char} (h : rest <:+ c.rest) :
    (c.moveTo rest).rest = rest := by
  obtain ⟨skipped, hs⟩ := h
  simp [moveTo, advance, ← hs]

theorem forward?_eq_some {before rest : List Char} {bytes : Nat} {c : Cursor}
    (h : forward? before rest bytes = some c) :
    c.text = before.reverse ++ rest ∧ c.offset = Text.byteLength before + bytes := by
  fun_induction forward? before rest bytes with
  | case1 before rest =>
    cases h
    simp [text, offset]
  | case2 => simp at h
  | case3 before bytes x rest hx ih =>
    obtain ⟨h₁, h₂⟩ := ih h
    refine ⟨by simpa using h₁, ?_⟩
    simp only [Text.byteLength_cons] at h₂
    omega
  | case4 => simp at h

/-- The place that `at?` finds is the one asked for. -/
theorem at?_eq_some {text : List Char} {offset : Nat} {c : Cursor} (h : at? text offset = some c) :
    c.text = text ∧ c.offset = offset := by
  simpa using forward?_eq_some h

end Cursor

end DesignAtlas
