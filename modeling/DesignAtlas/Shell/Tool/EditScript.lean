import DesignAtlas.Regex.Reader
import DesignAtlas.Shell.Tool.Basic

/-!
# Scripts that edit lines

Scripts of commands that are carried out for every line of a text. Every command is carried out for
some lines only, commands can be put together in blocks, and jumps lead to labels.

* `EditStep` is a command with the lines that it is carried out for.
* `EditReader.script` reads a script.
-/

namespace DesignAtlas.Shell.Tools

/-! ### Commands -/

/-- A pattern that lines are compared with. -/
structure EditPattern where
  /-- The expression, or the one that was used last. -/
  regex : Option Regex
  /-- Whether the case of letters does not count. -/
  ignoresCase : Bool
  /-- Whether every line of a text has a start and an end. -/
  isMultiline : Bool

/-- The line that a range of lines starts with. -/
inductive LineStart where
  /-- The line of a number. -/
  | line (number : Nat)
  /-- The line of a number and every line so many lines behind one of them. -/
  | every (first distance : Nat)
  /-- The last line. -/
  | last
  /-- A line that a pattern matches. -/
  | found (pattern : EditPattern)

/-- The line that a range of lines ends with. -/
inductive LineStop where
  /-- A line that does not depend on the one that the range starts with. -/
  | line (start : LineStart)
  /-- The line so many lines behind the first one. -/
  | after (count : Nat)
  /-- The next line whose number is a multiple of a number. -/
  | multiple (factor : Nat)

/-- How letters are changed in what takes the place of a match. -/
inductive Recasing where
  /-- They stay as they are. -/
  | none
  /-- All of them become capitals. -/
  | upper
  /-- All of them become small. -/
  | lower
  /-- The next one becomes a capital. -/
  | nextUpper
  /-- The next one becomes small. -/
  | nextLower
  deriving DecidableEq, Repr

/-- A part of what takes the place of a match. -/
inductive Replacement where
  /-- A text. -/
  | text (chars : List Char)
  /-- What a group has matched. -/
  | group (number : Nat)
  /-- What follows is changed. -/
  | recased (recasing : Recasing)

/-- How matches are replaced. -/
structure Substitution where
  /-- The pattern. -/
  pattern : EditPattern
  /-- What takes the place of a match. -/
  parts : List Replacement
  /-- The number of the first match that is replaced. -/
  first : Nat
  /-- Whether all matches behind the first one are replaced. -/
  isGlobal : Bool
  /-- Whether a changed text is shown. -/
  shows : Bool
  /-- Whether a changed text is run as a command, and its output takes its place. -/
  runs : Bool
  /-- The file that a changed text is written to. -/
  file : Option ByteText

/-- When a jump is made. -/
inductive JumpCondition where
  /-- It is always made. -/
  | always
  /-- It is made if something was replaced. -/
  | replaced
  /-- It is made if nothing was replaced. -/
  | unchanged
  deriving DecidableEq, Repr

/-- What a command does. -/
inductive EditAction where
  /-- Start a block. -/
  | block
  /-- End a block. -/
  | blockEnd
  /-- Nothing. A jump can lead here. -/
  | label (name : ByteText)
  /-- Go on behind a label, or at the end if it is empty. -/
  | jump (condition : JumpCondition) (name : ByteText)
  /-- Write a text behind the line. -/
  | append (text : List Char)
  /-- Write a text before the line. -/
  | insert (text : List Char)
  /-- Write a text in place of the lines. -/
  | change (text : List Char)
  /-- Delete the text. -/
  | delete
  /-- Delete the first line of the text and start again. -/
  | deleteFirst
  /-- Run a command, or the text itself. -/
  | run (command : List Char)
  /-- Show the name of the file. -/
  | showName
  /-- Copy the kept text. -/
  | get
  /-- Put the kept text behind the text. -/
  | getBehind
  /-- Keep the text. -/
  | keep
  /-- Put the text behind the kept text. -/
  | keepBehind
  /-- Show the text so that every character can be seen. -/
  | showEscaped (width : Option Nat)
  /-- Go on with the next line. -/
  | next
  /-- Put the next line behind the text. -/
  | nextBehind
  /-- Show the text. -/
  | show
  /-- Show the first line of the text. -/
  | showFirst
  /-- End with a status. -/
  | quit (silently : Bool) (status : Nat)
  /-- Write a file behind the line. -/
  | readFile (path : ByteText)
  /-- Write the next line of a file behind the line. -/
  | readLine (path : ByteText)
  /-- Replace matches. -/
  | substitute (substitution : Substitution)
  /-- Write the text to a file. -/
  | write (path : ByteText)
  /-- Write the first line of the text to a file. -/
  | writeFirst (path : ByteText)
  /-- Exchange the text and the kept one. -/
  | exchange
  /-- Replace characters by others. -/
  | translate (table : List (Char × Char))
  /-- Empty the text. -/
  | empty
  /-- Show the number of the line. -/
  | showNumber

/-- A command with the lines that it is carried out for. -/
structure EditStep where
  /-- The number of the command. -/
  number : Nat
  /-- The line that it starts with, or all lines. -/
  start : Option LineStart
  /-- The line that it ends with, if it is carried out for ranges of lines. -/
  stop : Option LineStop
  /-- Whether it is carried out for all other lines. -/
  isNegated : Bool
  /-- What the command does. -/
  action : EditAction

/-! ### Reading scripts -/

/-- What has been read of a script. -/
structure EditReader where
  /-- The characters that are left. -/
  left : List Char
  /-- The commands in reverse order. -/
  steps : List EditStep
  /-- The number of blocks that are open. -/
  depth : Nat
  /-- The way in which patterns are written. -/
  style : Regex.Style
  /-- Whether lines are only shown where a command says so. -/
  isQuiet : Bool

/-- What is wrong with a script, and the number of characters that are left there. -/
structure EditFault where
  /-- The wording. -/
  message : ByteText
  /-- The number of characters that are left. -/
  left : Nat

namespace EditReader

/-- A reader of scripts. -/
abbrev R (α : Type) : Type :=
  StateT EditReader (Except EditFault) α

/-- Complain about the place that has been reached. -/
def fail {α : Type} (message : ByteText) : R α := do
  throw ⟨message, (← get).left.length⟩

/-- Take a character away. -/
def take : R (Option Char) := do
  match (← get).left with
  | [] => return none
  | c :: rest =>
    modify fun s => { s with left := rest }
    return some c

/-- Give a character back. -/
def giveBack (c? : Option Char) : R Unit :=
  modify fun s => { s with left := c?.toList ++ s.left }

/-- Take the next character that is no blank away. -/
def takeVisible : R (Option Char) := do
  modify fun s => { s with left := s.left.dropWhile isBlank }
  take

/-- Take a number away that starts with a character. -/
def number (first? : Option Char) : R Nat := do
  giveBack first?
  let digits := (← get).left.takeWhile Char.isDigit
  modify fun s => { s with left := s.left.drop digits.length }
  return digits.foldl (fun n c => n * 10 + (c.toNat - 48)) 0

/-- Take the end of a command away. -/
def commandEnd : R Unit := do
  match ← takeVisible with
  | none => return
  | some c =>
    if c = '\x7d' ∨ c = '#' then giveBack (some c)
    else if c ≠ '\n' ∧ c ≠ ';' then fail "extra characters after command"

/-- Take the rest of the line away. -/
def lineRest : R (List Char) := do
  let text := (← get).left.takeWhile (· != '\n')
  modify fun s => { s with left := (s.left.drop text.length).drop 1 }
  return text

/-- The characters of brackets behind the one that opens them, and the text behind them. -/
def bracketed (text : List Char) : List Char × List Char :=
  let rec go : (kind : Option Char) → (taken : List Char) → List Char → List Char × List Char
    | _, taken, [] => (taken.reverse, [])
    | none, taken, '[' :: c :: rest =>
      if [':', '.', '='].contains c then go (some c) (c :: '[' :: taken) rest
      else go none ('[' :: taken) (c :: rest)
    | none, taken, '\\' :: 'n' :: rest => go none ('\n' :: taken) rest
    | none, taken, c :: rest =>
      if c = ']' then ((']' :: taken).reverse, rest)
      else if c = '\n' then (taken.reverse, c :: rest)
      else go none (c :: taken) rest
    | some kind, taken, c :: rest =>
      match rest with
      | ']' :: behind =>
        if c = kind then go none (']' :: c :: taken) behind
        else go (some kind) (c :: taken) (']' :: behind)
      | rest =>
        if c = '\n' then (taken.reverse, c :: rest) else go (some kind) (c :: taken) rest
  let (head, text) := match text with
    | '^' :: ']' :: rest => (['^', ']'], rest)
    | '^' :: rest => (['^'], rest)
    | ']' :: rest => ([']'], rest)
    | text => ([], text)
  let (inner, rest) := go none [] text
  (head ++ inner, rest)

/-- The text up to a delimiter, if there is one in the line, and the text behind it. -/
def upTo (delimiter : Char) (isPattern : Bool) :
    (fuel : Nat) → (taken text : List Char) → Option (List Char) × List Char
  | 0, _, text => (none, text)
  | _ + 1, _, [] => (none, [])
  | fuel + 1, taken, c :: rest =>
    if c = delimiter then (some taken.reverse, rest)
    else
      match c, rest with
      | '\n', rest => (none, c :: rest)
      | '\\', [] => (none, [])
      | '\\', d :: rest =>
        let taken :=
          if d = delimiter ∧ (isPattern ∨ d ≠ '&') then d :: taken
          else if d = 'n' ∧ isPattern then '\n' :: taken
          else if d = '\n' then '\n' :: (if isPattern then taken else '\\' :: taken)
          else d :: '\\' :: taken
        upTo delimiter isPattern fuel taken rest
      | '[', rest =>
        if isPattern then
          let (inner, rest) := bracketed rest
          upTo delimiter isPattern fuel (inner.reverse ++ '[' :: taken) rest
        else upTo delimiter isPattern fuel (c :: taken) rest
      | c, rest => upTo delimiter isPattern fuel (c :: taken) rest

/-- Take a text up to a delimiter away. -/
def delimited (delimiter : Char) (isPattern : Bool) (message : ByteText) : R (List Char) := do
  let text := (← get).left
  let (found?, rest) := upTo delimiter isPattern (text.length + 1) [] text
  modify fun s => { s with left := rest }
  match found? with
  | some found => return found
  | none => fail message

/-! ### Escapes -/

/-- The number that digits of a base stand for. -/
def digitsValue (base : Nat) (digits : List Char) : Nat :=
  digits.foldl (fun n c =>
    n * base + (if c.isDigit then c.toNat - 48 else c.toLower.toNat - 87)) 0

/-- The character that a backslash before a text stands for, if it is one that is written in
another way, and the text behind it. -/
def escape? : List Char → Option (Char × List Char)
  | 'a' :: rest => some ('\x07', rest)
  | 'f' :: rest => some ('\x0c', rest)
  | 'r' :: rest => some ('\r', rest)
  | 't' :: rest => some ('\t', rest)
  | 'v' :: rest => some ('\x0b', rest)
  | 'c' :: c :: rest => some (Char.ofNat (c.toUpper.toNat ^^^ 64), rest)
  | kind :: rest =>
    let read (base most : Nat) (isDigit : Char → Bool) : Option (Char × List Char) :=
      let digits := (rest.take most).takeWhile isDigit
      if digits.isEmpty then none
      else some (Char.ofNat (digitsValue base digits % 256), rest.drop digits.length)
    if kind = 'd' then read 10 3 Char.isDigit
    else if kind = 'o' then read 8 3 fun c => decide ('0' ≤ c) && decide (c ≤ '7')
    else if kind = 'x' then
      read 16 2 fun c => c.isDigit || ('a' ≤ c.toLower && c.toLower ≤ 'f')
    else none
  | [] => none

/-- A pattern with characters in place of the escapes that stand for them. -/
def unescaped : (fuel : Nat) → List Char → List Char
  | 0, text => text
  | fuel + 1, '\\' :: rest =>
    match escape? rest with
    | some (c, rest) => c :: unescaped fuel rest
    | none => '\\' :: rest.take 1 ++ unescaped fuel (rest.drop 1)
  | fuel + 1, c :: rest => c :: unescaped fuel rest
  | _ + 1, [] => []

/-- A text with characters in place of what backslashes stand before. -/
def plainText : (fuel : Nat) → List Char → List Char
  | 0, text => text
  | fuel + 1, '\\' :: rest =>
    match rest, escape? rest with
    | _, some (c, rest) => c :: plainText fuel rest
    | 'n' :: rest, none => '\n' :: plainText fuel rest
    | rest, none => rest.take 1 ++ plainText fuel (rest.drop 1)
  | fuel + 1, c :: rest => c :: plainText fuel rest
  | _ + 1, [] => []

/-- The parts of what takes the place of a match. -/
def replacements : (fuel : Nat) → List Char → List Replacement
  | 0, _ => []
  | _ + 1, [] => []
  | fuel + 1, '&' :: rest => .group 0 :: replacements fuel rest
  | fuel + 1, '\\' :: c :: rest =>
    let recasings : List (Char × Recasing) :=
      [('U', .upper), ('L', .lower), ('E', .none), ('u', .nextUpper), ('l', .nextLower)]
    if c.isDigit then .group (c.toNat - 48) :: replacements fuel rest
    else
      match recasings.lookup c, escape? (c :: rest) with
      | some recasing, _ => .recased recasing :: replacements fuel rest
      | none, some (c, rest) => .text [c] :: replacements fuel rest
      | none, none => .text [if c = 'n' then '\n' else c] :: replacements fuel rest
  | fuel + 1, c :: rest => .text [c] :: replacements fuel rest

/-- The greatest number of a group that is used. -/
def greatestGroup (parts : List Replacement) : Nat :=
  parts.foldl (fun n part =>
    match part with
    | .group number => max n number
    | _ => n) 0

/-! ### Patterns and lines -/

/-- The pattern that a text stands for. -/
def pattern (text : List Char) (ignoresCase isMultiline : Bool) : R EditPattern := do
  if text.isEmpty then
    if ignoresCase || isMultiline then fail "cannot specify modifiers on empty regexp"
    return ⟨none, false, false⟩
  match Regex.ofText (← get).style (unescaped text.length text) with
  | .ok r => return ⟨some r, ignoresCase, isMultiline⟩
  | .error fault => fail fault.message

/-- Take the letters behind a pattern away, up to a given number of them. -/
def patternLetters : (fuel : Nat) → (ignoresCase isMultiline : Bool) → R (Bool × Bool)
  | 0, ignoresCase, isMultiline => return (ignoresCase, isMultiline)
  | fuel + 1, ignoresCase, isMultiline => do
    match ← takeVisible with
    | some 'I' => patternLetters fuel true isMultiline
    | some 'M' => patternLetters fuel ignoresCase true
    | c =>
      giveBack c
      return (ignoresCase, isMultiline)

/-- Read a line that starts with a character, if it is one. -/
def lineStart (first? : Option Char) : R (Option LineStart) := do
  let search (delimiter : Char) : R (Option LineStart) := do
    let text ← delimited delimiter true "unterminated address regex"
    let (ignoresCase, isMultiline) ← patternLetters (← get).left.length false false
    return some (.found (← pattern text ignoresCase isMultiline))
  match first? with
  | some '/' => search '/'
  | some '\\' =>
    match ← take with
    | some delimiter => search delimiter
    | none => fail "unterminated address regex"
  | some '$' => return some .last
  | some c =>
    if c.isDigit then
      let n ← number (some c)
      match ← takeVisible with
      | some '~' =>
        let distance ← number (← takeVisible)
        return some (if distance = 0 then .line n else .every n distance)
      | other =>
        giveBack other
        return some (.line n)
    else return none
  | none => return none

/-- Read the line that a range ends with, behind the sign in front of it. -/
def lineStop : R LineStop := do
  match ← takeVisible with
  | some '+' => return .after (← number (← takeVisible))
  | some '~' => return .multiple (← number (← takeVisible))
  | first? =>
    match ← lineStart first? with
    | some start => return .line start
    | none => fail "unexpected \x60,'"

/-! ### Commands -/

/-- Take a name of a label away. -/
def labelName : R ByteText := do
  let first? ← takeVisible
  giveBack first?
  let isEnd (c : Char) : Bool := c == '\n' || c == ';' || c == '\x7d' || isBlank c
  let name := (← get).left.takeWhile (!isEnd ·)
  modify fun s => { s with left := s.left.drop name.length }
  return String.ofList name

/-- Take the name of a file away. -/
def fileName : R ByteText := do
  giveBack (← takeVisible)
  let name := (← get).left.takeWhile (· != '\n')
  modify fun s => { s with left := s.left.drop name.length }
  if name.isEmpty then fail "missing filename in r/R/w/W commands"
  let _ ← take
  return String.ofList name

/-- Take lines of text away, of which each but the last one ends with a backslash. -/
def textLines : (fuel : Nat) → (taken : List Char) → R (List Char)
  | 0, taken => return taken.reverse
  | fuel + 1, taken => do
    match (← get).left with
    | [] => return taken.reverse
    | '\n' :: _ =>
      let _ ← take
      return taken.reverse
    | '\\' :: rest =>
      modify fun s => { s with left := rest.drop 1 }
      textLines fuel ((rest.take 1) ++ '\\' :: taken)
    | c :: rest =>
      modify fun s => { s with left := rest }
      textLines fuel (c :: taken)

/-- Take the text of a command away. -/
def commandText : R (List Char) := do
  match ← takeVisible with
  | none => fail "expected \\ after \x60a', \x60c' or \x60i'"
  | some '\\' =>
    match (← get).left with
    | [] => return []
    | '\n' :: rest =>
      modify fun s => { s with left := rest }
      let text ← textLines rest.length []
      return plainText text.length text ++ ['\n']
    | rest =>
      let text ← textLines rest.length []
      return plainText text.length text ++ ['\n']
  | c =>
    giveBack c
    let text ← textLines (← get).left.length []
    return plainText text.length text ++ ['\n']

/-- The letters behind a substitution. -/
structure Letters where
  /-- The number of the first match that is replaced. -/
  first : Nat
  /-- Whether all matches are replaced. -/
  isGlobal : Bool
  /-- Whether a changed text is shown. -/
  shows : Bool
  /-- Whether a changed text is run. -/
  runs : Bool
  /-- Whether the case of letters does not count. -/
  ignoresCase : Bool
  /-- Whether every line has a start and an end. -/
  isMultiline : Bool
  /-- The file that a changed text is written to. -/
  file : Option ByteText

/-- Take the letters behind a substitution away. -/
def letters : (fuel : Nat) → Letters → R Letters
  | 0, known => return known
  | fuel + 1, known => do
    match ← take with
    | none => return known
    | some 'i' => letters fuel { known with ignoresCase := true }
    | some 'I' => letters fuel { known with ignoresCase := true }
    | some 'm' => letters fuel { known with isMultiline := true }
    | some 'M' => letters fuel { known with isMultiline := true }
    | some 'e' => letters fuel { known with runs := true }
    | some 'p' =>
      if known.shows then fail "multiple \x60p' options to \x60s' command"
      else letters fuel { known with shows := true }
    | some 'g' =>
      if known.isGlobal then fail "multiple \x60g' options to \x60s' command"
      else letters fuel { known with isGlobal := true }
    | some 'w' => return { known with file := some (← fileName) }
    | some c =>
      if c.isDigit then
        if known.first ≠ 0 then fail "multiple number options to \x60s' command"
        let n ← number (some c)
        if n = 0 then fail "number option to \x60s' command may not be zero"
        letters fuel { known with first := n }
      else if c = '\x7d' ∨ c = '#' then
        giveBack (some c)
        return known
      else if c = '\n' ∨ c = ';' then return known
      else if isBlank c then letters fuel known
      else fail "unknown option to \x60s'"

/-- Read a substitution behind its letter. -/
def substitution : R EditAction := do
  let message : ByteText := "unterminated \x60s' command"
  match ← take with
  | none => fail message
  | some delimiter =>
    if delimiter = '\n' ∨ delimiter = '\\' then fail message
    let text ← delimited delimiter true message
    let other ← delimited delimiter false message
    let parts := replacements (other.length + 1) other
    let l ← letters ((← get).left.length + 1) ⟨0, false, false, false, false, false, none⟩
    let p ← pattern text l.ignoresCase l.isMultiline
    match p.regex with
    | some r =>
      if r.groupCount < greatestGroup parts then
        fail ("invalid reference \\" ++ Nat.repr (greatestGroup parts) ++
          " on \x60s' command's RHS")
    | none => pure ()
    return .substitute ⟨p, parts, max l.first 1, l.isGlobal, l.shows, l.runs, l.file⟩

/-- The characters of a text in which backslashes stand before some of them. -/
def translated : List Char → List Char
  | '\\' :: 'n' :: rest => '\n' :: translated rest
  | '\\' :: c :: rest => c :: translated rest
  | c :: rest => c :: translated rest
  | [] => []

/-- Read a translation behind its letter. -/
def translation : R EditAction := do
  let message : ByteText := "unterminated \x60y' command"
  match ← take with
  | none => fail message
  | some delimiter =>
    let known ← delimited delimiter false message
    let other ← delimited delimiter false message
    let known := translated (unescaped known.length known)
    let other := translated (unescaped other.length other)
    if known.length ≠ other.length then
      fail "strings for \x60y' command are different lengths"
    commandEnd
    return .translate (known.zip other)

/-- Read the number behind a command. -/
def commandNumber : R (Option Nat) := do
  let c? ← takeVisible
  if c?.any Char.isDigit then
    let n ← number c?
    commandEnd
    return some n
  else
    giveBack c?
    commandEnd
    return none

/-- The commands that are a letter only. -/
def plainActions : List (Char × EditAction) :=
  [('=', .showNumber), ('d', .delete), ('D', .deleteFirst), ('F', .showName), ('g', .get),
    ('G', .getBehind), ('h', .keep), ('H', .keepBehind), ('n', .next), ('N', .nextBehind),
    ('p', .show), ('P', .showFirst), ('z', .empty), ('x', .exchange)]

/-- Read what a command does, behind its letter. -/
def action (start : Option LineStart) (isRange : Bool) (letter : Char) : R EditAction := do
  match letter with
  | '\x7b' =>
    modify fun s => { s with depth := s.depth + 1 }
    return .block
  | '\x7d' =>
    if (← get).depth = 0 then fail "unexpected \x60\x7d'"
    if start.isSome then fail "\x60\x7d' doesn't want any addresses"
    commandEnd
    modify fun s => { s with depth := s.depth - 1 }
    return .blockEnd
  | ':' =>
    if start.isSome then fail ": doesn't want any addresses"
    let name ← labelName
    if name.isEmpty then fail "\":\" lacks a label"
    return .label name
  | 'b' => return .jump .always (← labelName)
  | 't' => return .jump .replaced (← labelName)
  | 'T' => return .jump .unchanged (← labelName)
  | 'a' => return .append (← commandText)
  | 'i' => return .insert (← commandText)
  | 'c' => return .change (← commandText)
  | 'e' =>
    giveBack (← takeVisible)
    return .run (← lineRest)
  | 'q' =>
    if isRange then fail "command only uses one address"
    return .quit false ((← commandNumber).getD 0)
  | 'Q' =>
    if isRange then fail "command only uses one address"
    return .quit true ((← commandNumber).getD 0)
  | 'l' => return .showEscaped (← commandNumber)
  | 'r' => return .readFile (← fileName)
  | 'R' => return .readLine (← fileName)
  | 'w' => return .write (← fileName)
  | 'W' => return .writeFirst (← fileName)
  | 's' => substitution
  | 'y' => translation
  | letter =>
    match plainActions.lookup letter with
    | some action =>
      commandEnd
      return action
    | none => fail ("unknown command: \x60" ++ letter.toString ++ "'")

/-- Read the lines that a command is carried out for, and its letter. -/
def selected (first : Char) :
    R (Option LineStart × Option LineStop × Bool × Char) := do
  let withLetter (start : Option LineStart) (stop : Option LineStop) (letter? : Option Char) :
      R (Option LineStart × Option LineStop × Bool × Char) := do
    let isNegated := letter? == some '!'
    let letter? ← if isNegated then takeVisible else pure letter?
    match letter? with
    | none => fail "missing command"
    | some letter =>
      if isNegated && letter == '!' then fail "multiple \x60!'s"
      return (start, stop, isNegated, letter)
  if first = '+' ∨ first = '~' then
    let _ ← number (← takeVisible)
    fail "invalid usage of +N or ~N as first address"
  match ← lineStart (some first) with
  | none => withLetter none none (some first)
  | some start =>
    let next? ← takeVisible
    let (stop, next?) ← if next? = some ',' then do
        let stop ← lineStop
        pure (some stop, ← takeVisible)
      else pure (none, next?)
    let mayBeZero := match stop with
      | some (.line (.found _)) => true
      | _ => false
    match start with
    | .line 0 => if !mayBeZero then fail "invalid usage of line address 0"
    | _ => pure ()
    withLetter (some start) stop next?

/-- Read commands up to the end of the text. -/
def script : (fuel : Nat) → R Unit
  | 0 => return
  | fuel + 1 => do
    modify fun s => { s with left := s.left.dropWhile fun c => c == ';' || c.isWhitespace }
    match ← take with
    | none => return
    | some first =>
      let (start, stop, isNegated, letter) ← selected first
      if letter = '#' then
        if start.isSome then fail "comments don't accept any addresses"
        let _ ← lineRest
      else if letter = 'v' then
        let _ ← labelName
      else
        let action ← action start stop.isSome letter
        modify fun s =>
          { s with steps := ⟨s.steps.length, start, stop, isNegated, action⟩ :: s.steps }
      script fuel

/-- Read a text behind what has been read before. The first text can start with a line that makes
the script quiet. -/
def read (s : EditReader) (isFirst : Bool) (text : List Char) : Except EditFault EditReader := do
  let isQuiet := isFirst && (text == ['#', 'n'] || ['#', 'n', '\n'].isPrefixOf text)
  let (_, s) ← (script (text.length + 1)).run
    { s with left := text, isQuiet := s.isQuiet || isQuiet }
  return s

end EditReader

end DesignAtlas.Shell.Tools
