import DesignAtlas.Number.Total
import DesignAtlas.Shell.Format
import DesignAtlas.Shell.Test

/-!
# Builtin utilities

What all utilities have in common that a shell carries out by itself, and the ones that write texts
and test conditions. A utility works with its arguments and ends with a status.

* `optionsOf` reads the options in front of the operands of a utility.
-/

namespace DesignAtlas.Shell

open Text

/-- What a utility does with its arguments. It ends with a status. -/
abbrev Utility : Type :=
  List ByteText → Run Nat

/-- An option and its argument, which is empty if it takes none. -/
abbrev OptionFound : Type :=
  Char × ByteText

/-- Read the options in front of operands. A colon behind a letter says that it takes an argument.
-/
def optionsWithin (known : List Char) : (fuel : Nat) → List ByteText →
    Run (List OptionFound × List ByteText)
  | 0, arguments => return ([], arguments)
  | fuel + 1, arguments => do
    match arguments with
    | [] => return ([], [])
    | "--" :: rest => return ([], rest)
    | "-" :: _ => return ([], arguments)
    | first :: rest =>
      match first.toList with
      | '-' :: letter :: letters =>
        let behind := known.dropWhile (· != letter)
        let isKnown := !behind.isEmpty && letter != ':'
        let d := (← get).dialect
        if !isKnown then
          match d with
          | .plain => misuse ("Illegal option -" ++ letter.toString)
          | .rich => misuse ("-" ++ letter.toString ++ ": invalid option")
        else if behind.drop 1 |>.head? |>.any (· == ':') then
          match letters, rest with
          | [], [] =>
            match d with
            | .plain => misuse ("No arg for -" ++ letter.toString ++ " option")
            | .rich => misuse ("-" ++ letter.toString ++ ": option requires an argument")
          | [], value :: rest =>
            let (others, operands) ← optionsWithin known fuel rest
            return ((letter, value) :: others, operands)
          | letters, rest =>
            let (others, operands) ← optionsWithin known fuel rest
            return ((letter, String.ofList letters) :: others, operands)
        else
          let next := if letters.isEmpty then rest else String.ofList ('-' :: letters) :: rest
          let (others, operands) ← optionsWithin known fuel next
          return ((letter, "") :: others, operands)
      | _ => return ([], arguments)

/-- Read the options in front of operands, of which the letters are given. -/
def optionsOf (known : String) (arguments : List ByteText) :
    Run (List OptionFound × List ByteText) :=
  optionsWithin known.toList (Number.total (arguments.map (·.length + 1)) + 1) arguments

/-- Whether an option was found. -/
def hasFound (letter : Char) (options : List OptionFound) : Bool :=
  options.any (·.1 == letter)

/-- The number that an argument of a utility stands for. -/
def numberArgument (text : ByteText) : Run Nat := do
  match (natural? text).filter fun n => !text.isEmpty && n < Nat.pow 2 31 with
  | some n => return n
  | none =>
    match (← get).dialect with
    | .plain => misuse ("Illegal number: " ++ text)
    | .rich => misuse (text ++ ": numeric argument required")

/-! ### Texts -/

/-- Write the arguments, divided by blanks. -/
def echo : Utility := fun arguments => do
  let plain (lineEnd : ByteText) (words : List ByteText) : Run Nat := do
    let e := escaped .plainText (" ".intercalate words).toList
    write 1 (if e.goesOn then e.text ++ lineEnd else e.text)
    return 0
  match (← get).dialect, arguments with
  | .plain, "-n" :: words => plain "" words
  | .plain, words => plain "\n" words
  | .rich, words =>
    let isOptions (word : ByteText) : Bool :=
      match word.toList with
      | '-' :: letters => !letters.isEmpty && letters.all ['n', 'e', 'E'].contains
      | _ => false
    let options := words.takeWhile isOptions
    let letters := options.flatMap String.toList
    let text := " ".intercalate (words.drop options.length)
    let lineEnd := if letters.contains 'n' then "" else "\n"
    let escapes := (letters.reverse.find? fun c => c == 'e' || c == 'E') == some 'e' ||
      ((← get).hasFeature "xpg_echo" && !letters.contains 'E')
    if escapes then
      let e := escaped .richText text.toList
      write 1 (if e.goesOn then e.text ++ lineEnd else e.text)
    else write 1 (text ++ lineEnd)
    return 0

/-- Write a filled format. The plain dialect complains first. The rich one has written the lines
that were full before it complains. -/
def writeParts (f : FilledFormat) : Run Unit := do
  match (← get).dialect with
  | .plain =>
    for text in f.complaints do complain text
    write 1 f.text
  | .rich =>
    let mut waiting := ""
    for part in f.parts do
      match part with
      | .text t => waiting := waiting ++ t
      | .complaint t =>
        let unended := (waiting.toList.reverse.takeWhile (· != '\n')).length
        write 1 (String.ofList (waiting.toList.take (waiting.length - unended)))
        waiting := String.ofList (waiting.toList.drop (waiting.length - unended))
        complain t
    write 1 waiting

/-- Write the arguments as a format says. -/
def printFormat : Utility := fun arguments => do
  let d := (← get).dialect
  let (options, operands) ← optionsOf (if d = .rich then "v:" else "") arguments
  match operands with
  | [] =>
    match d with
    | .plain => misuse "usage: printf format [arg ...]"
    | .rich =>
      write 2 "printf: usage: printf [-v var] format [arguments]\n"
      return 2
  | format :: arguments =>
    let filled := fillFormat (if d = .plain then .plain else .rich) format arguments
    match options.getLast? with
    | some (_, name) =>
      for text in filled.complaints do complain text
      assign name filled.text
    | none => writeParts filled
    return filled.status

/-- Find out whether a test holds. -/
def test : Utility := fun arguments => do
  let s ← get
  match s.testHolds arguments with
  | .ok true => return 0
  | .ok false => return 1
  | .error fault => refuse 2 (fault.message s.dialect)

/-- Find out whether a test in brackets holds. -/
def bracketTest : Utility := fun arguments => do
  if arguments.getLast? = some "]" then test arguments.dropLast
  else refuse 2 (if (← get).dialect = .plain then "missing ]" else "missing \x60]'")

/-- End with a status and do nothing else. -/
def ending (status : Nat) : Utility := fun _ => return status

end DesignAtlas.Shell
