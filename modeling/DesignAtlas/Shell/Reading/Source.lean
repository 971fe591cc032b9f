import DesignAtlas.Shell.Syntax

/-!
# Sources of commands

A script while it is read: the text that is left, the line it starts in, and the documents that
have been asked for. A document is known by its number, and its lines are kept apart from the
command that reads them.

* `SyntaxFault.message` words why a script cannot be read.
* `P` is a reader, a step that takes text away from a source or ends with a fault.
-/

namespace DesignAtlas.Shell

/-- An operator between commands. -/
inductive Operator where
  /-- Go on after success. -/
  | both
  /-- Go on after a failure. -/
  | either
  /-- Hand the output on. -/
  | pipe
  /-- Hand the output and the errors on. -/
  | pipeBoth
  /-- Do not wait. -/
  | background
  /-- Go on in any case. -/
  | sequence
  /-- End a branch. -/
  | branchEnd
  /-- End a branch and go on with the next one. -/
  | fallThrough
  /-- End a branch and try the next ones. -/
  | tryNext
  /-- Open a group. -/
  | opening
  /-- Close a group. -/
  | closing
  deriving DecidableEq, Repr

/-- How an operator is written. -/
def Operator.sign : Operator → String
  | both => "&&"
  | either => "||"
  | pipe => "|"
  | pipeBoth => "|&"
  | background => "&"
  | sequence => ";"
  | branchEnd => ";;"
  | fallThrough => ";&"
  | tryNext => ";;&"
  | opening => "("
  | closing => ")"

/-- A token of a script. -/
inductive Token where
  /-- A word. -/
  | word (w : Word)
  /-- A word that is reserved where it stands. -/
  | reserved (text : String)
  /-- An operator between commands. -/
  | operator (o : Operator)
  /-- The sign of a redirection, with the descriptor written before it. -/
  | redirection (descriptor : Option Nat) (direction : Direction)
  /-- The sign of a document, with the descriptor written before it. -/
  | document (descriptor : Option Nat) (withoutTabs : Bool)
  /-- The end of a line. -/
  | newline
  /-- The end of the text. -/
  | ending

/-- How a token is named in a fault of the plain dialect. -/
def Token.shown : Token → String
  | word _ => "word"
  | reserved text => "\"" ++ text ++ "\""
  | operator o => "\"" ++ o.sign ++ "\""
  | redirection _ _ => "redirection"
  | document _ _ => "redirection"
  | newline => "newline"
  | ending => "end of file"

/-- How a token is written, as far as it is named in a fault of the rich dialect. -/
def Token.written : Token → String
  | word w => w.text
  | reserved text => text
  | operator o => o.sign
  | redirection _ .append => ">>"
  | redirection _ .read => "<"
  | redirection _ _ => ">"
  | document _ _ => "<<"
  | newline => "newline"
  | ending => "end of file"

/-- Why a script cannot be read. -/
inductive SyntaxCause where
  /-- A token stands where it cannot. Perhaps it is known what could stand there. -/
  | unexpected (token : Token) (expected : Option String)
  /-- A quote is never closed. -/
  | openQuote (quote : Char)
  /-- A bracket is never closed. -/
  | openBracket (closing : String)
  /-- Something is wrong that has a name. -/
  | bad (what : String)
  /-- A backquote is never closed. -/
  | openBackquote
  /-- The text is too deep to be read. -/
  | tooDeep

/-- A fault of a script with the line in which it was found. -/
structure SyntaxFault where
  /-- The line. -/
  line : Nat
  /-- The cause. -/
  cause : SyntaxCause

/-- The wording of a fault in the plain dialect. -/
def SyntaxFault.message (f : SyntaxFault) : String :=
  "Syntax error: " ++
    match f.cause with
    | .unexpected token none => token.shown ++ " unexpected"
    | .unexpected token (some expected) =>
      token.shown ++ " unexpected (expecting " ++ expected ++ ")"
    | .openQuote _ => "Unterminated quoted string"
    | .openBracket closing => "Missing '" ++ closing ++ "'"
    | .bad what => "Bad " ++ what
    | .openBackquote => "EOF in backquote substitution"
    | .tooDeep => "Maximum depth reached"

/-- A document that a line has asked for. -/
structure PendingDocument where
  /-- Its number. -/
  number : Nat
  /-- The line that ends it. -/
  last : ByteText
  /-- Whether nothing is put into it. -/
  quoted : Bool
  /-- Whether tabs are taken away in front of its lines. -/
  withoutTabs : Bool

/-- A script while it is read. -/
structure Source where
  /-- The dialect. -/
  dialect : Dialect
  /-- The text that is left. -/
  text : List Char
  /-- The line where it starts. -/
  line : Nat
  /-- A token that was looked at and put back. -/
  pushed : Option Token
  /-- The documents by their numbers. -/
  documents : Array Word
  /-- The documents whose lines have not been read. -/
  pending : List PendingDocument
  /-- The words that stand for other texts. -/
  aliases : List (String × ByteText)
  /-- The words that have been replaced, with the lengths of the texts behind them. Such a word is
  not replaced again before that text is reached. -/
  replacing : List (String × Nat)
  /-- The length of the text at whose start a word may be replaced, wherever it stands. -/
  replaceable : Option Nat
  /-- Whether patterns with alternatives are read everywhere. -/
  alternatives : Bool

/-- A reader. -/
abbrev P (α : Type) : Type :=
  StateT Source (Except SyntaxFault) α

namespace P

/-- End with a fault in the line that has been reached. -/
def fail {α : Type} (cause : SyntaxCause) : P α := do
  throw ⟨(← get).line, cause⟩

/-- Take characters away and count the lines that end among them. -/
def skip (count : Nat) : P Unit :=
  modify fun s =>
    let taken := s.text.take count
    { s with text := s.text.drop count, line := s.line + taken.count '\n' }

/-- Take the characters at the start that satisfy a predicate. -/
def takeWhile (p : Char → Bool) : P (List Char) := do
  let taken := (← get).text.takeWhile p
  skip taken.length
  return taken

/-- Take joints of lines away. -/
def skipJoints : P Unit := do
  let rec joints : List Char → Nat
    | '\\' :: '\n' :: rest => joints rest + 1
    | _ => 0
  let count := joints (← get).text
  if count ≠ 0 then skip (2 * count)

/-- The next character, joints of lines left out. It is not taken away. -/
def peek : P (Option Char) := do
  skipJoints
  return (← get).text.head?

/-- Take a given text away if it is next. -/
def accept (wanted : String) : P Bool := do
  skipJoints
  let s ← get
  if wanted.toList.isPrefixOf s.text then
    skip wanted.length
    return true
  else return false

/-- Run a reader, or leave the source as it is if the reader fails. -/
def attempt {α : Type} (r : P α) : P (Option α) := fun s =>
  match r s with
  | .ok (a, s) => .ok (some a, s)
  | .error _ => .ok (none, s)

/-- Put a token back. -/
def putBack (t : Token) : P Unit :=
  modify fun s => { s with pushed := some t }

/-- End with a fault about a token. -/
def unexpected {α : Type} (t : Token) : P α :=
  fail (.unexpected t none)

/-- End with a fault about a token that stands in the place of another one. -/
def unexpectedFor {α : Type} (t : Token) (expected : String) : P α :=
  fail (.unexpected t (some expected))

end P

end DesignAtlas.Shell
