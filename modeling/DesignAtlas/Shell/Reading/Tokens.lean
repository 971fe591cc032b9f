import DesignAtlas.Shell.Reading.Words

/-!
# Reading tokens

The tokens of a source one after the other. A reader says what it expects: whether ends of lines are
skipped, and whether a word may be reserved or stand for another text.

* `next` takes the next token, `readDocuments` takes the lines of the documents that have been asked
  for.
-/

namespace DesignAtlas.Shell.Reading

open P

/-- The words that are reserved where a command can start. -/
def reservedWords : Dialect → List String
  | .plain =>
    ["!", "case", "do", "done", "elif", "else", "esac", "fi", "for", "if", "in", "then", "until",
      "while", "\x7b", "\x7d"]
  | .rich =>
    ["!", "case", "do", "done", "elif", "else", "esac", "fi", "for", "if", "in", "then", "until",
      "while", "\x7b", "\x7d", "[[", "function", "time"]

/-- What a reader expects of a token. -/
structure Expecting where
  /-- Whether ends of lines are skipped. -/
  skipsLines : Bool
  /-- Whether a word can be reserved. -/
  reserved : Bool
  /-- Whether a word can stand for another text. -/
  replaceable : Bool
  deriving DecidableEq, Repr

namespace Expecting

/-- Any token. -/
def anything : Expecting := ⟨false, false, false⟩

/-- The start of a command behind other commands. -/
def command : Expecting := ⟨true, true, true⟩

/-- The start of a command in the same line. -/
def commandHere : Expecting := ⟨false, true, true⟩

/-- A reserved word behind ends of lines. -/
def reservedWord : Expecting := ⟨true, true, false⟩

/-- The first word of a command. -/
def name : Expecting := ⟨false, false, true⟩

end Expecting

/-! ### Documents -/

/-- Whether a line ends with a backslash that joins it to the next one. -/
def joinsNext (line : List Char) : Bool :=
  (line.reverse.takeWhile (· == '\\')).length % 2 == 1

/-- The lines of a document up to the line that ends it, and the text behind that line. -/
def documentLines (p : PendingDocument) (isJoined : Bool) (text : List Char) :
    List Char × List Char :=
  match text with
  | [] => ([], [])
  | c :: rest =>
    let line := (c :: rest).takeWhile (· != '\n')
    let behind := (c :: rest).drop (line.length + 1)
    let ended := if line.length < (c :: rest).length then ['\n'] else []
    let line := if p.withoutTabs && !isJoined then line.dropWhile (· == '\t') else line
    if line = p.last.toList ∧ isJoined = false then ([], behind)
    else
      let (others, behind) := documentLines p (!p.quoted && joinsNext line) behind
      (line ++ ended ++ others, behind)
termination_by text.length
decreasing_by
  rw [List.length_drop, List.length_cons]
  omega

section

variable (commands : P Command)

/-- Read the lines of a document. -/
def readDocument (fuel : Nat) (p : PendingDocument) : P Unit := do
  let s ← get
  let (lines, behind) := documentLines p false s.text
  let body ←
    if p.quoted then
      pure (if lines.isEmpty then [] else [Piece.literal (String.ofList lines) true])
    else do
      set { s with text := lines, pushed := none, pending := [] }
      pieces commands fuel .document
  modify fun after =>
    { s with
      text := behind,
      line := s.line + (s.text.take (s.text.length - behind.length)).count '\n',
      documents := after.documents.setIfInBounds p.number body }

/-- Read the lines of the documents that have been asked for. -/
def readDocuments (fuel : Nat) : P Unit := do
  let pending := (← get).pending
  modify fun s => { s with pending := [] }
  for p in pending do readDocument commands fuel p

/-! ### Tokens -/

/-- The operators with their signs, the longer ones first. -/
def operators : Dialect → List (String × Operator)
  | .plain =>
    [("&&", .both), ("&", .background), ("||", .either), ("|", .pipe), (";;", .branchEnd),
      (";", .sequence), ("(", .opening), (")", .closing)]
  | .rich =>
    [(";;&", .tryNext), ("&&", .both), ("&", .background), ("||", .either), ("|&", .pipeBoth),
      ("|", .pipe), (";;", .branchEnd), (";&", .fallThrough), (";", .sequence), ("(", .opening),
      (")", .closing)]

/-- The directions with their signs, the longer ones first. -/
def directions : Dialect → List (String × Direction)
  | .plain =>
    [(">>", .append), (">|", .overwrite), (">&", .duplicateOutput), (">", .replace),
      ("<&", .duplicateInput), ("<>", .update), ("<", .read)]
  | .rich =>
    [("<<<", .line), (">>", .append), (">|", .overwrite), (">&", .duplicateOutput),
      (">", .replace), ("<&", .duplicateInput), ("<>", .update), ("<", .read)]

/-- Take the first of several signs that is next, and give what it means. -/
def sign? {α : Type} : List (String × α) → P (Option α)
  | [] => return none
  | (sign, meaning) :: others => do
    if ← accept sign then return some meaning else sign? others

/-- Take the sign of a redirection, if it is next. -/
def redirection? (descriptor : Option Nat) : P (Option Token) := do
  let d := (← get).dialect
  match (← get).text with
  | '<' :: '<' :: '<' :: _ =>
    if d = .rich then
      skip 3
      return some (.redirection descriptor .line)
  | '&' :: '>' :: '>' :: _ =>
    if d = .rich ∧ descriptor = none then
      skip 3
      return some (.redirection none .appendBoth)
  | '&' :: '>' :: _ =>
    if d = .rich ∧ descriptor = none then
      skip 2
      return some (.redirection none .replaceBoth)
  | '<' :: '(' :: _ => if d = .rich then return none
  | '>' :: '(' :: _ => if d = .rich then return none
  | _ => pure ()
  if ← accept "<<" then return some (.document descriptor (← accept "-"))
  return (← sign? (directions d)).map (.redirection descriptor)

/-- The length of the digits at the start of a text, if a redirection follows them. -/
def descriptorLength (d : Dialect) (text : List Char) : Nat :=
  let digits := text.takeWhile Char.isDigit
  match text.drop digits.length with
  | c :: _ =>
    if (c = '<' ∨ c = '>') ∧ (digits.length = 1 ∨ (d = .rich ∧ digits.length ≤ 3)) then
      digits.length
    else 0
  | [] => 0

/-- Take blanks and a comment away. -/
def skipBlanks : (fuel : Nat) → P Unit
  | 0 => pure ()
  | fuel + 1 => do
    skipJoints
    match (← get).text with
    | '#' :: _ =>
      let _ ← takeWhile (· != '\n')
    | c :: _ =>
      if isBlank c then
        skip 1
        skipBlanks fuel
    | [] => pure ()

/-- Take the next token of the text. -/
def fresh (fuel : Nat) : P Token := do
  skipBlanks fuel
  let s ← get
  match s.text with
  | [] => return .ending
  | '\n' :: _ =>
    skip 1
    return .newline
  | text =>
    let digits := descriptorLength s.dialect text
    if digits ≠ 0 then
      let descriptor := digitsValue 10 (text.take digits)
      skip digits
      match ← redirection? (some descriptor) with
      | some t => return t
      | none => return .word [.literal (Nat.repr descriptor) false]
    else
      match ← redirection? none with
      | some t => return t
      | none =>
        match ← sign? (operators s.dialect) with
        | some o => return .operator o
        | none => return .word (← word commands fuel)

/-- Whether a word is replaced by another text where it stands. -/
def replacement? (s : Source) (expecting : Expecting) (text : ByteText) : Option ByteText :=
  let behind := s.text.length
  let isReplaceable := expecting.replaceable || s.replaceable.any (behind < ·)
  if isReplaceable && !(s.replacing.any fun known => known.1 == text && known.2 < behind + 1) then
    s.aliases.lookup text
  else none

/-- Take the next token, as it is expected. -/
def next (expecting : Expecting) : (fuel : Nat) → P Token
  | 0 => fail .tooDeep
  | fuel + 1 => do
    let s ← get
    let t ←
      match s.pushed with
      | some t =>
        set { s with pushed := none }
        pure t
      | none => fresh commands fuel
    match t with
    | .newline =>
      if expecting.skipsLines then
        readDocuments commands fuel
        next expecting fuel
      else return .newline
    | .word w =>
      match Word.bareText? w with
      | none => return t
      | some text =>
        let s ← get
        if expecting.reserved && (reservedWords s.dialect).contains text then
          return .reserved text
        if s.aliases.isEmpty then return t
        let other? := replacement? s expecting text
        let waiting := s.replaceable.filter (· ≤ s.text.length)
        set { s with replaceable := waiting }
        match other? with
        | none => return t
        | some other =>
          let replaceable :=
            if other.toList.getLast?.any isBlank then some s.text.length else waiting
          set { s with
            text := other.toList ++ s.text,
            replacing := (text, s.text.length) :: s.replacing,
            replaceable := replaceable }
          next expecting fuel
    | t => return t

/-- Look at the next token without taking it. -/
def look (expecting : Expecting) (fuel : Nat) : P Token := do
  let t ← next commands expecting fuel
  putBack t
  return t

/-- Take the word that ends a document. -/
def lastWord (fuel : Nat) : P Word := do
  skipBlanks fuel
  match (← get).text with
  | [] => return []
  | c :: _ =>
    if endsWord c then return []
    else return joined (← pieces commands fuel (.last false))

end

end DesignAtlas.Shell.Reading
