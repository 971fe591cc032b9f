import DesignAtlas.Shell.ByteText

/-!
# Syntax of command languages

What a shell makes of a script before anything is carried out: words with the pieces that are put
in later, redirections, and commands. Two dialects share the types; what only the richer one has is
never built for the plain one.

* `Piece` and `Use` are about words, `Command` about commands. Commands stand inside words and
  words inside commands, so all of them are defined together.
-/

namespace DesignAtlas.Shell

/-- A dialect of the command language. -/
inductive Dialect where
  /-- The plain language of a POSIX shell. -/
  | plain
  /-- The language with arrays, conditions and arithmetic commands. -/
  | rich
  deriving DecidableEq, Repr

/-- The way in which a redirection treats its file. -/
inductive Direction where
  /-- Write the file anew, unless that is not allowed. -/
  | replace
  /-- Write the file anew in any case. -/
  | overwrite
  /-- Write behind the content of the file. -/
  | append
  /-- Read the file. -/
  | read
  /-- Read and write the file, and make it if it is not there. -/
  | update
  /-- Write where another descriptor does. -/
  | duplicateOutput
  /-- Read where another descriptor does. -/
  | duplicateInput
  /-- Write the file anew, with errors as well. -/
  | replaceBoth
  /-- Write behind the content of the file, with errors as well. -/
  | appendBoth
  /-- Read a word as a line. -/
  | line
  /-- Read the document with a number. -/
  | document (number : Nat)
  deriving DecidableEq, Repr

/-- The part of a value that a pattern takes away. -/
inductive Trim where
  /-- The shortest beginning. -/
  | shortestStart
  /-- The longest beginning. -/
  | longestStart
  /-- The shortest end. -/
  | shortestEnd
  /-- The longest end. -/
  | longestEnd
  deriving DecidableEq, Repr

/-- The places at which a pattern is replaced. -/
inductive Place where
  /-- The first place. -/
  | first
  /-- Every place. -/
  | every
  /-- The beginning. -/
  | start
  /-- The end. -/
  | ending
  deriving DecidableEq, Repr

/-- What is done with the case of letters. -/
inductive Recasing where
  /-- Capital letters. -/
  | upper
  /-- Small letters. -/
  | lower
  /-- The other ones. -/
  | other
  deriving DecidableEq, Repr

/-- A redirection, in terms of the words that it is written with. -/
structure RedirectionOf (Word : Type) where
  /-- The descriptor. -/
  descriptor : Nat
  /-- What is done with the file. -/
  direction : Direction
  /-- The name of the file. -/
  target : Word

/-- An element of a written array, in terms of words. -/
structure ElementOf (Word : Type) where
  /-- The place in the array, if it is written. -/
  key : Option Word
  /-- The value. -/
  value : Word

/-- What is assigned to a variable, in terms of words. -/
inductive AssignedOf (Word : Type) where
  /-- The text of a word. -/
  | text (w : Word)
  /-- An array. -/
  | array (elements : List (ElementOf Word))

/-- An assignment, in terms of words. -/
structure AssignmentOf (Word : Type) where
  /-- The name of the variable. -/
  name : String
  /-- The place in an array. -/
  key : Option Word
  /-- Whether the value is put behind the one that is there. -/
  appends : Bool
  /-- What is assigned. -/
  assigned : AssignedOf Word

/-- What stands behind a branch of a selection. -/
inductive BranchEnd where
  /-- The selection ends. -/
  | leave
  /-- The next branch is carried out as well. -/
  | fallThrough
  /-- The patterns of the next branches are tried as well. -/
  | tryNext
  deriving DecidableEq, Repr

/-- A branch of a selection, in terms of words and commands. -/
structure BranchOf (Word Command : Type) where
  /-- The patterns. -/
  patterns : List Word
  /-- What is done if one of them matches. -/
  body : Command
  /-- What comes then. -/
  ending : BranchEnd

/-- The unary tests of a condition are known by their letter, the binary ones by their sign. -/
inductive ConditionOf (Word : Type) where
  /-- A word that is not empty. -/
  | word (w : Word)
  /-- A unary test. -/
  | unary (sign : String) (w : Word)
  /-- A binary test. -/
  | binary (sign : String) (first second : Word)
  /-- The opposite of a condition. -/
  | negated (c : ConditionOf Word)
  /-- Both of two conditions. -/
  | both (first second : ConditionOf Word)
  /-- One of two conditions. -/
  | either (first second : ConditionOf Word)

mutual

/-- A piece of a word. -/
inductive Piece where
  /-- A text, with nothing special about it if it is quoted. -/
  | literal (text : ByteText) (quoted : Bool)
  /-- A place where quotes stand. They make a word even if nothing is inside. -/
  | mark
  /-- The value of a parameter, which can be an element of an array. -/
  | parameter (name : String) (key : Subscript) (use : Use) (quoted : Bool)
  /-- The output of commands. -/
  | output (commands : Command) (quoted : Bool)
  /-- The value of an arithmetic expression. -/
  | number (expression : List Piece) (quoted : Bool)
  /-- A file that leads to the output or to the input of commands. -/
  | process (reads : Bool) (commands : Command)
  /-- The elements of an array that is assigned. -/
  | array (elements : List (ElementOf (List Piece)))

/-- The place in an array. -/
inductive Subscript where
  /-- The variable is no array. -/
  | none
  /-- Every element as a field of its own. -/
  | each
  /-- All elements together. -/
  | joined
  /-- One element. -/
  | at (key : List Piece)

/-- How the value of a parameter is used. A parameter that is set to the empty text counts as
missing if `orEmpty` says so. -/
inductive Use where
  /-- As it is. -/
  | plain
  /-- Its length. -/
  | length
  /-- As it is, or else another value. -/
  | orElse (orEmpty : Bool) (other : List Piece)
  /-- As it is, or else another value that is assigned to the parameter. -/
  | orAssign (orEmpty : Bool) (other : List Piece)
  /-- As it is, or else the script ends. -/
  | orExit (orEmpty : Bool) (message : List Piece)
  /-- Another value, if there is one. -/
  | ifSet (orEmpty : Bool) (other : List Piece)
  /-- Without a part that matches a pattern. -/
  | trimmed (part : Trim) (pattern : List Piece)
  /-- A part of it. -/
  | slice (start : List Piece) (length : Option (List Piece))
  /-- With another text in the place of a pattern. -/
  | replaced (place : Place) (pattern other : List Piece)
  /-- With letters of another case, where they match a pattern. -/
  | recased (change : Recasing) (all : Bool) (pattern : List Piece)
  /-- The value of the parameter that its value names, used in another way. -/
  | indirect (use : Use)
  /-- The names of variables that start with the name. -/
  | namesFrom (joined : Bool)
  /-- The places of an array that are taken. -/
  | keys
  /-- In the form that a letter stands for. -/
  | formed (letter : Char)
  /-- In a way that has no meaning, with its text. The script ends. -/
  | senseless (text : ByteText)

/-- A command, with the lines where it starts. -/
inductive Command where
  /-- Do nothing. -/
  | nothing
  /-- Assign variables, and run a program unless there are no words. -/
  | simple (line : Nat) (assignments : List (AssignmentOf (List Piece)))
      (words : List (List Piece)) (redirections : List (RedirectionOf (List Piece)))
  /-- Run a command and then another one. -/
  | sequence (first second : Command)
  /-- Run a second command after success of the first. -/
  | both (first second : Command)
  /-- Run a second command after a failure of the first. -/
  | either (first second : Command)
  /-- Run commands, each on the output of the one before. -/
  | pipeline (stages : List Command)
  /-- Turn success into failure and failure into success. -/
  | negated (c : Command)
  /-- Redirect descriptors for a command. -/
  | redirected (line : Nat) (c : Command) (redirections : List (RedirectionOf (List Piece)))
  /-- Run a command in a shell of its own. -/
  | subshell (line : Nat) (c : Command)
  /-- Run one of two commands, as a test says. -/
  | choice (test yes no : Command)
  /-- Run a command as long as a test says so, or until it does. -/
  | loop (untilHolds : Bool) (test body : Command)
  /-- Run a command for each of several words, by default for the arguments of the script. -/
  | each (line : Nat) (name : String) (words : Option (List (List Piece))) (body : Command)
  /-- Run the command of the first pattern that a word matches. -/
  | select (line : Nat) (subject : List Piece) (branches : List (BranchOf (List Piece) Command))
  /-- Run a command on its own, without waiting for it. -/
  | background (line : Nat) (c : Command)
  /-- Let a name stand for a command. -/
  | define (line : Nat) (name : String) (body : Command)
  /-- Find out whether an expression is not 0. -/
  | arithmetic (line : Nat) (expression : List Piece)
  /-- Find out whether a condition holds. -/
  | condition (line : Nat) (c : ConditionOf (List Piece))
  /-- Run a command as long as an expression is not 0. -/
  | counted (line : Nat) (first test step : List Piece) (body : Command)
  /-- Run a command and say how long it took. -/
  | timed (c : Command)

end

/-- A word, piece by piece. -/
abbrev Word : Type := List Piece

/-- A redirection. -/
abbrev Redirection : Type := RedirectionOf Word

/-- An assignment. -/
abbrev Assignment : Type := AssignmentOf Word

/-- A branch of a selection. -/
abbrev Branch : Type := BranchOf Word Command

/-- A condition. -/
abbrev Condition : Type := ConditionOf Word

instance : Inhabited Command := ⟨.nothing⟩

/-- Whether the use of a parameter takes a pattern, which double quotes around it do not quote. -/
def Use.isTrimmed : Use → Bool
  | trimmed _ _ => true
  | replaced _ _ _ => true
  | recased _ _ _ => true
  | _ => false

/-! ### Characters -/

/-- Whether a character divides words within a line. -/
def isBlank (c : Char) : Bool :=
  c == ' ' || c == '\t'

/-- Whether a character ends a word that is not quoted. -/
def endsWord (c : Char) : Bool :=
  isBlank c || ['\n', ';', '&', '|', '(', ')', '<', '>'].contains c

/-- Whether a character can start the name of a variable. -/
def isNameStart (c : Char) : Bool :=
  c == '_' || c.isAlpha

/-- Whether a character can stand inside the name of a variable. -/
def isNameChar (c : Char) : Bool :=
  c == '_' || c.isAlphanum

/-- Whether a text can be the name of a variable. -/
def isName (text : String) : Bool :=
  match text.toList with
  | first :: rest => isNameStart first && rest.all isNameChar
  | [] => false

/-- The parameters with a name of one special character. -/
def specialParameters : List Char :=
  ['?', '#', '@', '*', '!', '$', '-']

/-! ### Words -/

namespace Word

/-- A word of characters without quotes. -/
def ofText (text : ByteText) : Word :=
  if text.isEmpty then [] else [.literal text false]

/-- The text of a word without quotes and without anything to put in. -/
def bareText? : Word → Option ByteText
  | [] => some ""
  | .literal text false :: rest => (bareText? rest).map (text ++ ·)
  | _ => none

/-- The characters of a word. -/
def text (w : Word) : ByteText :=
  String.join (w.map fun piece =>
    match piece with
    | .literal text _ => text
    | _ => "")

/-- Whether something in a word is quoted. -/
def hasQuotes (w : Word) : Bool :=
  w.any fun piece =>
    match piece with
    | .literal _ quoted => quoted
    | .mark => true
    | _ => false

/-- Put a text in front of a word. -/
def withText (text : ByteText) (quoted : Bool) (w : Word) : Word :=
  match w with
  | .literal rest q :: others =>
    if q = quoted then .literal (text ++ rest) q :: others else .literal text quoted :: w
  | w => .literal text quoted :: w

/-- The pieces of a word up to an unquoted bracket that closes it and that a sign follows, the sign,
and the pieces behind it. -/
def splitKey? : (depth : Nat) → Word → Option (Word × Bool × Word)
  | _, [] => none
  | depth, .literal text false :: rest =>
    let rec scan (depth : Nat) (before : List Char) : List Char →
        Except Nat (List Char × Bool × List Char)
      | [] => .error depth
      | '[' :: rest => scan (depth + 1) ('[' :: before) rest
      | ']' :: rest =>
        match depth, rest with
        | 0, '=' :: behind => .ok (before.reverse, false, behind)
        | 0, '+' :: '=' :: behind => .ok (before.reverse, true, behind)
        | 0, rest => scan 0 (']' :: before) rest
        | depth + 1, rest => scan depth (']' :: before) rest
      | c :: rest => scan depth (c :: before) rest
    match scan depth [] text.toList with
    | .ok (before, appends, behind) =>
      some (ofText (String.ofList before), appends,
        if behind.isEmpty then rest else .literal (String.ofList behind) false :: rest)
    | .error depth =>
      (splitKey? depth rest).map fun found => (.literal text false :: found.1, found.2)
  | depth, piece :: rest =>
    (splitKey? depth rest).map fun found => (piece :: found.1, found.2)

/-- What a word behind the sign of an assignment assigns. -/
def assigned : Word → AssignedOf Word
  | .array elements :: _ => .array elements
  | w => .text w

/-- The assignment that a word is. -/
def assignment? (d : Dialect) (w : Word) : Option Assignment :=
  match w with
  | .literal text false :: rest =>
    let name := text.toList.takeWhile isNameChar
    let behind := text.toList.drop name.length
    let word (chars : List Char) : Word :=
      if chars.isEmpty then rest else .literal (String.ofList chars) false :: rest
    if !isName (String.ofList name) then none
    else
      match behind, d with
      | '=' :: value, _ => some ⟨String.ofList name, none, false, assigned (word value)⟩
      | '+' :: '=' :: value, .rich => some ⟨String.ofList name, none, true, assigned (word value)⟩
      | '[' :: key, .rich =>
        (splitKey? 0 (word key)).map fun (key, appends, value) =>
          ⟨String.ofList name, some key, appends, assigned value⟩
      | _, _ => none
  | _ => none

/-- The element of an array that a word writes. -/
def element (w : Word) : ElementOf Word :=
  match w with
  | .literal text false :: rest =>
    match text.toList with
    | '[' :: key =>
      let inner : Word := if key.isEmpty then rest else .literal (String.ofList key) false :: rest
      match splitKey? 0 inner with
      | some (key, false, value) => ⟨some key, value⟩
      | _ => ⟨none, w⟩
    | _ => ⟨none, w⟩
  | w => ⟨none, w⟩

end Word

end DesignAtlas.Shell
