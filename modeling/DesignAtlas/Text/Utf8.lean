/-!
# UTF-8

Decoding of bytes, strict and lenient. A character is a lead byte and up to three continuation
bytes; the lead byte bounds the first of them, so overlong forms, surrogates and code points past
the last plane are never formed.

* `decode?` reads well-formed bytes only.
* `decodeLossy` puts one replacement character for every maximal piece that begins a character and
  does not finish it, and for every byte that can begin none.
-/

namespace DesignAtlas.Text.Utf8

/-- What a lead byte announces. -/
structure Lead where
  /-- The number of continuation bytes. -/
  count : Nat
  /-- The bits of the code point that the lead byte itself holds. -/
  bits : Nat
  /-- The least first continuation byte. -/
  low : Nat
  /-- The greatest first continuation byte. -/
  high : Nat
  deriving DecidableEq, Repr

/-- The character form that a byte begins, if it can begin one. -/
def lead? (byte : UInt8) : Option Lead :=
  let b := byte.toNat
  if b < 0x80 then some ⟨0, b, 0x80, 0xBF⟩
  else if b < 0xC2 then none
  else if b < 0xE0 then some ⟨1, b - 0xC0, 0x80, 0xBF⟩
  else if b = 0xE0 then some ⟨2, 0, 0xA0, 0xBF⟩
  else if b = 0xED then some ⟨2, 0xD, 0x80, 0x9F⟩
  else if b < 0xF0 then some ⟨2, b - 0xE0, 0x80, 0xBF⟩
  else if b = 0xF0 then some ⟨3, 0, 0x90, 0xBF⟩
  else if b < 0xF4 then some ⟨3, b - 0xF0, 0x80, 0xBF⟩
  else if b = 0xF4 then some ⟨3, 4, 0x80, 0x8F⟩
  else none

/-- Read `count` continuation bytes, the first between `low` and `high`. Gives the code point, or
nothing if the bytes break off, and the bytes from the first unfit one on. -/
def continuations (count point low high : Nat) (bytes : List UInt8) : Option Nat × List UInt8 :=
  match count, bytes with
  | 0, bytes => (some point, bytes)
  | _ + 1, [] => (none, [])
  | count + 1, byte :: rest =>
    if low ≤ byte.toNat ∧ byte.toNat ≤ high then
      continuations count (point * 0x40 + (byte.toNat - 0x80)) 0x80 0xBF rest
    else (none, byte :: rest)

/-- The character that a byte and the ones behind it form, or nothing for a maximal broken piece,
and the bytes behind it. -/
def next (byte : UInt8) (rest : List UInt8) : Option Char × List UInt8 :=
  match lead? byte with
  | none => (none, rest)
  | some lead =>
    let (point, behind) := continuations lead.count lead.bits lead.low lead.high rest
    (point.map Char.ofNat, behind)

theorem length_continuations_le (count point low high : Nat) (bytes : List UInt8) :
    (continuations count point low high bytes).2.length ≤ bytes.length := by
  fun_induction continuations count point low high bytes with
  | case1 => exact Nat.le_refl _
  | case2 => exact Nat.le_refl _
  | case3 _ low high count byte rest _ ih => exact Nat.le_succ_of_le ih
  | case4 => exact Nat.le_refl _

theorem length_next_le (byte : UInt8) (rest : List UInt8) :
    (next byte rest).2.length ≤ rest.length := by
  unfold next
  split
  · exact Nat.le_refl _
  · exact length_continuations_le _ _ _ _ _

/-- The characters that bytes form, with nothing in place of each broken piece. -/
def decodePieces : List UInt8 → List (Option Char)
  | [] => []
  | byte :: rest =>
    have := length_next_le byte rest
    (next byte rest).1 :: decodePieces (next byte rest).2
termination_by bytes => bytes.length

/-- The text of well-formed bytes. -/
def decode? (bytes : List UInt8) : Option String :=
  ((decodePieces bytes).mapM id).map String.ofList

/-- The text of any bytes, with U+FFFD for each broken piece. -/
def decodeLossy (bytes : List UInt8) : String :=
  String.ofList ((decodePieces bytes).map fun piece => piece.getD '\uFFFD')

/-- The bytes of a text. -/
def encode (text : String) : List UInt8 :=
  text.toList.flatMap String.utf8EncodeChar

end DesignAtlas.Text.Utf8
