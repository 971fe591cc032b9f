import DesignAtlas.Number.Total
import DesignAtlas.Shell.Lookup
import DesignAtlas.Shell.Quoting
import DesignAtlas.Shell.Redirection

/-!
# Tools

The small programs that stand in the directories of the system. A tool is called by a name, which it
puts before what it has to say, with arguments, and it can run other programs.

* `Call` is a call of a tool.
* `Call.options` reads options, short and long ones, wherever they stand.
* `Call.contentOf` is the content of a file or of the input.
-/

namespace DesignAtlas.Shell

open Text

/-- A call of a tool. -/
structure Call where
  /-- The name that the tool is called by. -/
  name : ByteText
  /-- The arguments. -/
  arguments : List ByteText
  /-- Run a program with arguments in a process of its own. -/
  run : List ByteText → Run (Except FileFault Ending)

/-- What a tool does when it is called. It ends with a status. -/
abbrev Tool : Type :=
  Call → Run Nat

/-! ### Names in messages -/

/-- Whether a character means something else than itself to a shell. -/
def isShellSpecial (c : Char) : Bool :=
  [' ', '\x27', '"', '$', '&', '(', ')', '*', ';', '<', '=', '>', '[', '\\', '^', '\x60', '|', '!',
    '?'].contains c

/-- A text between quotes, as tools show names. -/
def quotedName (t : ByteText) : ByteText :=
  let chars := t.toList
  if chars.all isPrintable then
    let needsDouble := chars.contains '\x27' &&
      !chars.any ['"', '$', '\x60', '\\', '!'].contains
    if needsDouble then "\"" ++ t ++ "\""
    else
      "'" ++ String.join (chars.map fun c => if c = '\x27' then "'\\''" else c.toString) ++ "'"
  else
    -- What cannot be printed is escaped between quotes of its own.
    let letters : List (Char × String) :=
      [('\n', "\\n"), ('\t', "\\t"), ('\r', "\\r"), ('\x07', "\\a"), ('\x08', "\\b"),
        ('\x0b', "\\v"), ('\x0c', "\\f")]
    let step (state : ByteText × Bool) (c : Char) : ByteText × Bool :=
      let (text, isEscaped) := state
      if isPrintable c then
        ((if isEscaped then text ++ "''" else text) ++
          (if c = '\x27' then "'\\''" else c.toString), false)
      else
        ((if isEscaped then text else text ++ "'$'") ++
          (letters.lookup c).getD ("\\" ++ octalDigits c), true)
    let (text, _) := chars.foldl step ("'", false)
    text ++ "'"

/-- A text as tools show names, in quotes if it needs them. -/
def shownName (t : ByteText) : ByteText :=
  let needsQuotes := t.isEmpty || t.toList.any (fun c => isShellSpecial c || !isPrintable c) ||
    t.toList.head?.any (fun c => c == '~' || c == '#') || t == "\x7b" || t == "\x7d"
  if needsQuotes then quotedName t else t

namespace Call

/-- Write a line of errors behind the name of the tool. -/
def say (c : Call) (text : ByteText) : Run Unit :=
  write 2 (c.name ++ ": " ++ text ++ "\n")

/-- Write a line of errors and end with a status. -/
def fail (c : Call) (status : Nat) (text : ByteText) : Run Nat := do
  c.say text
  return status

/-- Point to the help of the tool, and end with a status. -/
def pointToHelp (c : Call) (status : Nat) : Run Nat := do
  write 2 ("Try '" ++ c.name ++ " --help' for more information.\n")
  return status

/-- Complain about the use of the tool, and end with a status. -/
def misused (c : Call) (status : Nat) (text : ByteText) : Run Nat := do
  c.say text
  c.pointToHelp status

/-- Complain about a fault with a file. -/
def sayFault (c : Call) (path : ByteText) (fault : FileFault) : Run Unit :=
  c.say (shownName path ++ ": " ++ fault.reason)

end Call

/-! ### Options -/

/-- Whether an option takes an argument. -/
inductive TakesArgument where
  /-- It takes none. -/
  | never
  /-- It takes one. -/
  | always
  /-- It can take one that is written together with it. -/
  | perhaps
  deriving DecidableEq, Repr

/-- The options that a tool knows. -/
structure KnownOptions where
  /-- The letters, with a colon behind each one that takes an argument, and two colons behind each
  one that can take one. -/
  letters : String
  /-- The long names with the letters that they stand for. -/
  names : List (String × Char × TakesArgument)

/-- The options that were found and the operands. -/
structure FoundOptions where
  /-- The options with their arguments, in order. -/
  options : List (Char × Option ByteText)
  /-- The operands. -/
  operands : List ByteText

namespace FoundOptions

/-- Whether an option was found. -/
def has (f : FoundOptions) (letter : Char) : Bool :=
  f.options.any (·.1 == letter)

/-- The argument of the last option of a letter. -/
def value? (f : FoundOptions) (letter : Char) : Option ByteText :=
  ((f.options.reverse.find? (·.1 == letter)).map (·.2)).join

/-- The arguments of all options of a letter. -/
def values (f : FoundOptions) (letter : Char) : List ByteText :=
  f.options.filterMap fun o => if o.1 == letter then o.2 else none

/-- The last one of several letters that was found. -/
def last? (f : FoundOptions) (letters : List Char) : Option Char :=
  (f.options.reverse.find? fun o => letters.contains o.1).map (·.1)

/-- The operands, or the input if there are none. -/
def files (f : FoundOptions) : List ByteText :=
  if f.operands.isEmpty then ["-"] else f.operands

end FoundOptions

namespace KnownOptions

/-- Whether a letter is known, and whether it takes an argument. -/
def letter? (k : KnownOptions) (letter : Char) : Option TakesArgument :=
  match k.letters.toList.dropWhile (· != letter) with
  | _ :: ':' :: ':' :: _ => if letter = ':' then none else some .perhaps
  | _ :: ':' :: _ => if letter = ':' then none else some .always
  | _ :: _ => if letter = ':' then none else some .never
  | [] => none

/-- The long names that start with a text, or the one that is equal to it. -/
def matching (k : KnownOptions) (text : String) : List (String × Char × TakesArgument) :=
  match k.names.find? (·.1 == text) with
  | some exact => [exact]
  | none => k.names.filter fun n => n.1.startsWith text

/-- Read options. A message says what is wrong with them. -/
def read (k : KnownOptions) (stopsAtOperand : Bool) :
    (fuel : Nat) → List ByteText → Except ByteText FoundOptions
  | 0, arguments => .ok ⟨[], arguments⟩
  | _ + 1, [] => .ok ⟨[], []⟩
  | fuel + 1, first :: rest => do
    let found (option : Char × Option ByteText) (rest : List ByteText) :
        Except ByteText FoundOptions := do
      let others ← read k stopsAtOperand fuel rest
      return ⟨option :: others.options, others.operands⟩
    match first.toList with
    | ['-', '-'] => return ⟨[], rest⟩
    | '-' :: '-' :: long =>
      let name := long.takeWhile (· != '=')
      let value? :=
        if name.length < long.length then some (String.ofList (long.drop (name.length + 1)))
        else none
      match k.matching (String.ofList name), value? with
      | [], _ => throw ("unrecognized option '" ++ first ++ "'")
      | [(_, letter, .never)], none => found (letter, none) rest
      | [(long, _, .never)], some _ => throw ("option '--" ++ long ++ "' doesn't allow an argument")
      | [(_, letter, _)], some value => found (letter, some value) rest
      | [(_, letter, .perhaps)], none => found (letter, none) rest
      | [(long, letter, .always)], none =>
        match rest with
        | value :: rest => found (letter, some value) rest
        | [] => throw ("option '--" ++ long ++ "' requires an argument")
      | candidates, _ =>
        throw ("option '" ++ first ++ "' is ambiguous; possibilities:" ++
          String.join (candidates.map fun n => " '--" ++ n.1 ++ "'"))
    | '-' :: letter :: letters =>
      match k.letter? letter, letters, rest with
      | none, _, _ => throw ("invalid option -- '" ++ letter.toString ++ "'")
      | some .never, [], rest => found (letter, none) rest
      | some .never, letters, rest =>
        found (letter, none) (String.ofList ('-' :: letters) :: rest)
      | some .perhaps, [], rest => found (letter, none) rest
      | some .always, [], value :: rest => found (letter, some value) rest
      | some .always, [], [] =>
        throw ("option requires an argument -- '" ++ letter.toString ++ "'")
      | some _, letters, rest => found (letter, some (String.ofList letters)) rest
    | _ =>
      if stopsAtOperand then return ⟨[], first :: rest⟩
      else
        let others ← read k stopsAtOperand fuel rest
        return ⟨others.options, first :: others.operands⟩

end KnownOptions

/-- Read the options of a tool and do something with them. A wrong use ends with a status. -/
def Call.withOptions (c : Call) (status : Nat) (letters : String)
    (names : List (String × Char × TakesArgument)) (work : FoundOptions → Run Nat) : Run Nat := do
  let fuel := Number.total (c.arguments.map (·.length + 1)) + 1
  match (KnownOptions.mk letters names).read false fuel c.arguments with
  | .ok found => work found
  | .error message => c.misused status message

/-- Read the options of a tool that stand in front of its operands. -/
def Call.withLeadingOptions (c : Call) (status : Nat) (letters : String)
    (names : List (String × Char × TakesArgument)) (work : FoundOptions → Run Nat) : Run Nat := do
  let fuel := Number.total (c.arguments.map (·.length + 1)) + 1
  match (KnownOptions.mk letters names).read true fuel c.arguments with
  | .ok found => work found
  | .error message => c.misused status message

/-- Read the options of a tool, where a dash and digits are an option as well. -/
def Call.withNumbers (c : Call) (letter : Char) (status : Nat) (letters : String)
    (names : List (String × Char × TakesArgument)) (work : FoundOptions → Run Nat) : Run Nat :=
  let spelled (a : ByteText) : ByteText :=
    match a.toList with
    | '-' :: d :: rest =>
      if d.isDigit then String.ofList ('-' :: letter :: d :: rest) else a
    | _ => a
  match c.arguments with
  | first :: rest =>
    { c with arguments := spelled first :: rest }.withOptions status letters names work
  | [] => c.withOptions status letters names work

/-! ### Sizes -/

/-- The factors that letters behind a number stand for. -/
def sizeFactors : List (Char × Nat) :=
  [('K', 1), ('M', 2), ('G', 3), ('T', 4), ('P', 5), ('E', 6)]

/-- A number with a factor behind it. -/
def sizeOf? (text : ByteText) : Option Nat :=
  let digits := text.toList.takeWhile Char.isDigit
  let n? := if digits.isEmpty then none else natural? (String.ofList digits)
  n?.bind fun n =>
    match text.toList.drop digits.length with
    | [] => some n
    | ['b'] => some (n * 512)
    | ['k'] => some (n * 1024)
    | ['m'] => some (n * Nat.pow 1024 2)
    | ['k', 'B'] => some (n * 1000)
    | [letter] => (sizeFactors.lookup letter).map fun power => n * Nat.pow 1024 power
    | [letter, 'B'] => (sizeFactors.lookup letter).map fun power => n * Nat.pow 1000 power
    | [letter, 'i', 'B'] => (sizeFactors.lookup letter).map fun power => n * Nat.pow 1024 power
    | _ => none

/-! ### Contents -/

/-- The content of a file, or of the input for a dash. -/
def contentOf (path : ByteText) : Run (Except FileFault ByteText) :=
  if path = "-" then readAll 0 else readFile path

/-- Do something with the content of each of several files, and complain about those that cannot be
read. -/
def Call.forContents (c : Call) (paths : List ByteText)
    (work : (path content : ByteText) → Run Unit) : Run Bool := do
  let mut fine := true
  for path in paths do
    match ← contentOf path with
    | .ok content => work path content
    | .error fault =>
      fine := false
      c.sayFault path fault
  return fine

/-- The contents of files one by one, with complaints about those that cannot be read. -/
def Call.contents (c : Call) (paths : List ByteText) : Run (List ByteText × Bool) := do
  let mut found := []
  let mut fine := true
  for path in paths do
    match ← contentOf path with
    | .ok content => found := content :: found
    | .error fault =>
      fine := false
      c.sayFault path fault
  return (found.reverse, fine)

/-- Write a content into a file, in place of its former content or behind it. -/
def putContent (path : ByteText) (appends : Bool) (text : ByteText) :
    Run (Except FileFault Unit) := do
  match ← withFile (if appends then .append else .replace) path (write · text) with
  | .error fault => return .error fault
  | .ok () =>
    let fault? := (← get).writeFault
    modify fun s => { s with writeFault := none }
    return fault?.elim (.ok ()) .error

/-! ### Lines -/

/-- The lines of a text, each with the character that ends it. The last one need not be ended. -/
def splitLines (lineEnd : Char) (text : List Char) : List (List Char) :=
  let (lines, last) := text.foldl (fun (state : List (List Char) × List Char) c =>
    if c = lineEnd then ((c :: state.2).reverse :: state.1, []) else (state.1, c :: state.2))
    ([], [])
  (if last.isEmpty then lines else last.reverse :: lines).reverse

/-- A line without the character that ends it. -/
def unended (lineEnd : Char) (line : List Char) : List Char :=
  if line.getLast? = some lineEnd then line.dropLast else line

/-- The lines of a text, without the characters that end them. -/
def linesOf (text : ByteText) : List ByteText :=
  (splitLines '\n' text.toList).map fun line => String.ofList (unended '\n' line)

/-- Write lines. -/
def writeLines (lines : List ByteText) : Run Unit :=
  write 1 (String.join (lines.map (· ++ "\n")))

/-- End with a status that says whether everything was fine. -/
def statusOf (fine : Bool) : Nat :=
  if fine then 0 else 1

end DesignAtlas.Shell
