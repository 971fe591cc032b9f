import DesignAtlas.Proofs.Text.Offsets
import DesignAtlas.Shell.ByteText
import DesignAtlas.Source.Definition
import DesignAtlas.Workspace.Analysis

/-!
# Scanning with checks

Source text is scanned on its bytes, by offsets that are added up while the scan goes on. This is
the scan with all that can go wrong in it: a byte that is not there, a part of a text that ends
before it starts or is cut inside a character, a counter below zero, a loop that does not get
ahead. Each of these is a fault and ends the scan.

* `Scan`: what a scan gives, or the fault that it ends with.
* `Scan.skipBlanks`, `Scan.identifier?`, `Scan.balanced?`, `Scan.portList?`, `Scan.occurrences`: the
  readers of pieces. All of them refuse an offset that lies on no character boundary.
* `Scan.definitions` and `Scan.instanceNames` list the definitions in a text and the instances in a
  body, `Scan.parse` also the included names.
-/

namespace DesignAtlas.Source

open Text
open Shell.ByteText (charOf)

/-- Why a scan cannot go on. -/
inductive ScanFault where
  /-- An offset is past the end of the text or inside a character. -/
  | offset (offset : Nat)
  /-- A part of the text would end before it starts. -/
  | part (start stop : Nat)
  /-- There is no byte at an index. -/
  | byte (index : Nat)
  /-- No block opens where one is to be closed. -/
  | unopened (offset : Nat)
  /-- A number would get below zero. -/
  | negative
  /-- A loop would not get ahead. -/
  | standstill
  deriving DecidableEq, Repr

/-- What a scan gives, or the fault that it ends with. -/
abbrev Scan (α : Type) : Type :=
  Except ScanFault α

namespace Scan

variable (text : List Char)

/-! ### Bytes, offsets and parts -/

/-- The bytes of a text. -/
def bytes : List UInt8 :=
  text.flatMap String.utf8EncodeChar

/-- One less than a number. -/
def pred : Nat → Scan Nat
  | 0 => throw .negative
  | n + 1 => return n

/-- Refuse an offset that does not lie on a character boundary within the text. -/
def check (offset : Nat) : Scan Unit :=
  if IsBoundary text offset then return () else throw (.offset offset)

/-- The byte at an index. -/
def byte (index : Nat) : Scan UInt8 :=
  match (bytes text)[index]? with
  | some b => return b
  | none => throw (.byte index)

/-- The text from an offset on. -/
def rest (offset : Nat) : Scan (List Char) :=
  match Cursor.at? text offset with
  | some c => return c.rest
  | none => throw (.offset offset)

/-- The text between two offsets. -/
def part (start stop : Nat) : Scan (List Char) := do
  if stop < start then throw (.part start stop)
  else
    let behind ← rest text start
    match Cursor.at? behind (stop - start) with
    | some c => return c.before.reverse
    | none => throw (.offset stop)

/-- Whether a byte, if there is one at an offset, is that of an ASCII character. -/
def holdsAt (offset : Nat) (c : Char) : Scan Bool := do
  check text offset
  return (bytes text)[offset]?.map charOf == some c

/-- The offset of the first occurrence of a needle in a text. -/
def find? (needle : List Char) : Option Nat :=
  (cut? needle text).map fun parts => byteLength parts.1

/-- The first offset from the given one on whose byte does not satisfy a condition. -/
def skipWhile (holds : Char → Bool) (offset : Nat) : Scan Nat :=
  if _h : offset < (bytes text).length then do
    if holds (charOf (← byte text offset)) then skipWhile holds (offset + 1) else return offset
  else return offset
termination_by (bytes text).length - offset

/-! ### Readers of pieces -/

/-- Whether an identifier can start at an offset: the byte before it continues none. -/
def canStart (offset : Nat) : Scan Bool := do
  check text offset
  if offset = 0 then return true
  else return !isIdentifierChar (charOf (← byte text (← pred offset)))

/-- The first offset from the given one on that holds no ASCII blank. -/
def skipBlanks (offset : Nat) : Scan Nat := do
  check text offset
  skipWhile text isBlank offset

/-- The start and the end of the identifier at an offset. -/
def identifier? (offset : Nat) : Scan (Option (Nat × Nat)) := do
  check text offset
  if offset < (bytes text).length then
    if isIdentifierStart (charOf (← byte text offset)) then
      return some (offset, ← skipWhile text isIdentifierChar (offset + 1))
    else return none
  else return none

/-- The offset behind the parenthesis that closes the outermost of `depth` open blocks, in the
bytes from an offset on. -/
def closing? (depth offset : Nat) : List UInt8 → Scan (Option Nat)
  | [] => return none
  | b :: rest =>
    if charOf b = '(' then closing? (depth + 1) (offset + 1) rest
    else if charOf b = ')' then do
      let depth ← pred depth
      if depth = 0 then return some (offset + 1) else closing? depth (offset + 1) rest
    else closing? depth (offset + 1) rest

/-- The offset behind the block that the parenthesis at an offset opens. -/
def balanced? (offset : Nat) : Scan (Option Nat) := do
  if ← holdsAt text offset '(' then closing? 0 offset ((bytes text).drop offset)
  else throw (.unopened offset)

/-- A part of a text does not end before it starts. -/
theorem le_of_part_eq_ok {text list : List Char} {start stop : Nat}
    (h : part text start stop = .ok list) : start ≤ stop := by
  unfold part at h
  split at h
  · cases h
  · omega

/-- The offset behind a semicolon that only blanks precede from an offset on. -/
def semicolon? (offset : Nat) : Scan (Option Nat) := do
  let after ← skipBlanks text offset
  if ← holdsAt text after ';' then return some (after + 1) else return none

/-- The offset behind the first `)` from `search` on and before `limit` that a semicolon follows,
and behind that semicolon. -/
def listEnd? (limit search : Nat) : Scan (Option Nat) :=
  match _h : part text search limit with
  | .error fault => throw fault
  | .ok list =>
    match find? list [')'] with
    | none => return none
    | some distance => do
      match ← semicolon? text (search + distance + 1) with
      | some behind => return some behind
      | none => listEnd? limit (search + distance + 1)
termination_by limit + 1 - search
decreasing_by
  have := le_of_part_eq_ok _h
  omega

/-- The offset behind the list that the parenthesis at an offset opens and behind its semicolon. -/
def portList? (stop : Option (List Char)) (offset : Nat) : Scan (Option Nat) := do
  if ← holdsAt text offset '(' then
    match stop with
    | none => listEnd? text (bytes text).length (offset + 1)
    | some word =>
      let behind ← rest text (offset + 1)
      match find? behind word with
      | none => listEnd? text (bytes text).length (offset + 1)
      | some distance => listEnd? text (offset + 1 + distance) (offset + 1)
  else return none

/-- The number of line feeds before an offset. -/
def line (offset : Nat) : Scan Nat := do
  check text offset
  return ((bytes text).take offset).countP fun b => charOf b = '\n'

/-- The offsets from the given one on where a needle stands, each search going on behind the last
hit. -/
def occurrences (needle : List Char) (start : Nat) : Scan (List Nat) :=
  if _h : needle = [] ∨ (bytes text).length < start then return []
  else do
    match find? (← rest text start) needle with
    | none => return []
    | some distance =>
      return (start + distance) :: (← occurrences needle (start + distance + byteLength needle))
termination_by (bytes text).length + 1 - start
decreasing_by
  have hpos : 0 < byteLength needle :=
    Nat.pos_of_ne_zero fun hzero => _h (.inl (byteLength_eq_zero_iff.1 hzero))
  omega

/-! ### Instances -/

/-- The offset behind an optional parameter block. A `#` that no parenthesis follows is left for the
next reader; a block that is opened has to be closed. -/
def behindOverrides? (offset : Nat) : Scan (Option Nat) := do
  let hash ← skipBlanks text offset
  if ← holdsAt text hash '#' then
    let opening ← skipBlanks text (hash + 1)
    if ← holdsAt text opening '(' then balanced? text opening else return some offset
  else return some offset

/-- The instance's name, where the name of the module ends at an offset. -/
def instanceName? (offset : Nat) : Scan (Option (List Char)) := do
  match ← behindOverrides? text offset with
  | none => return none
  | some behind =>
    let start ← skipBlanks text behind
    if start = behind then return none
    else
      match ← identifier? text start with
      | none => return none
      | some (first, last) =>
        match ← portList? text none (← skipBlanks text last) with
        | none => return none
        | some _ => return some (← part text first last)

/-- The instance's name at an offset where the name of the module stands. -/
def instanceAt? (moduleName : List Char) (offset : Nat) : Scan (Option (List Char)) := do
  if ← canStart text offset then instanceName? text (offset + byteLength moduleName)
  else return none

/-- The names that a body gives to its instances of a module, from left to right. -/
def instanceNames (body moduleName : String) : Scan (List String) := do
  let hits ← occurrences body.toList moduleName.toList 0
  let names ← hits.mapM (instanceAt? body.toList moduleName.toList)
  return names.reduceOption.map String.ofList

/-! ### Definitions -/

/-- The offsets of a definition: where its name starts and ends, where its body starts and ends, and
where it ends itself. -/
structure DefinitionOffsets where
  /-- The start of the name. -/
  nameStart : Nat
  /-- The end of the name. -/
  nameEnd : Nat
  /-- The start of the body. -/
  bodyStart : Nat
  /-- The end of the body. -/
  bodyEnd : Nat
  /-- The end of the definition. -/
  next : Nat
  deriving DecidableEq, Repr

/-- The offset behind the parameter block, or the offset itself if no `#` opens one. -/
def behindParameters? (offset : Nat) : Scan (Option Nat) := do
  if ← holdsAt text offset '#' then
    let opening ← skipBlanks text (offset + 1)
    if ← holdsAt text opening '(' then
      match ← balanced? text opening with
      | none => return none
      | some behind => return some (← skipBlanks text behind)
    else return none
  else return some offset

/-- The offset behind the port list and the semicolon of a header. -/
def behindPorts? (offset : Nat) : Scan (Option Nat) := do
  if ← holdsAt text offset ';' then return some (offset + 1)
  else portList? text (some endKeyword) offset

/-- The definition whose name starts at an offset. -/
def definitionAt? (offset : Nat) : Scan (Option DefinitionOffsets) := do
  match ← identifier? text offset with
  | none => return none
  | some (nameStart, nameEnd) =>
    match ← behindParameters? text (← skipBlanks text nameEnd) with
    | none => return none
    | some ports =>
      match ← behindPorts? text ports with
      | none => return none
      | some bodyStart =>
        match find? (← rest text bodyStart) endKeyword with
        | none => return none
        | some distance =>
          return some
            { nameStart, nameEnd, bodyStart
              bodyEnd := bodyStart + distance
              next := bodyStart + distance + byteLength endKeyword }

/-- The offsets of the first header from a place on: where it starts, and one byte into the name. -/
def headerFrom? (before : List Char) : List Char → Option (Nat × Nat)
  | [] => none
  | c :: rest =>
    match headerName? before.head? (c :: rest) with
    | some name =>
      some (byteLength before,
        byteLength before + (byteLength (c :: rest) - byteLength name) + 1)
    | none => headerFrom? (c :: before) rest

/-- The offsets of the first header from an offset on. -/
def header? (offset : Nat) : Option (Nat × Nat) :=
  (Cursor.at? text offset).bind fun c => headerFrom? c.before c.rest

/-- The definitions from an offset on. -/
def definitionsFrom (offset : Nat) : Scan (List Definition) :=
  if _hoffset : IsBoundary text offset then
    match header? text offset with
    | none => return []
    | some (start, stop) => do
      let nameStart ← pred stop
      match ← definitionAt? text nameStart with
      | none =>
        if _h : offset < nameStart then definitionsFrom nameStart else throw .standstill
      | some d =>
        let name ← part text d.nameStart d.nameEnd
        let body ← part text d.bodyStart d.bodyEnd
        let line ← line text start
        if _h : offset < d.next then
          return { name := String.ofList name, body := String.ofList body, line := line } ::
            (← definitionsFrom d.next)
        else throw .standstill
  else throw (.offset offset)
termination_by byteLength text + 1 - offset
decreasing_by
  all_goals
    have := _hoffset.le
    omega

/-- The module definitions of a source text, from left to right. -/
def definitions (text : String) : Scan (List Definition) :=
  definitionsFrom text.toList 0

/-- What is taken from a source text. -/
def parse (text : String) : Scan Parsed := do
  return { definitions := ← definitions text, includedNames := includedNames text }

end Scan

end DesignAtlas.Source
