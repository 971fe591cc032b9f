import DesignAtlas.Regex.Reader
import DesignAtlas.Shell.Builtin.State
import DesignAtlas.Shell.Pattern
import DesignAtlas.Shell.Tool.Listing

/-!
# Queries for files

What files are looked for by: conditions on their names, kinds, sizes and times, put together with
signs, and what is done with the files that are found.

* `FindQuery` is a query.
* `FindReader.query` reads one.
-/

namespace DesignAtlas.Shell.Tools

/-! ### Queries -/

/-- A number that is compared with. -/
inductive Amount where
  /-- Exactly so many. -/
  | exactly (n : Nat)
  /-- More than so many. -/
  | more (n : Nat)
  /-- Fewer than so many. -/
  | fewer (n : Nat)
  deriving DecidableEq, Repr

/-- Whether a number is as an amount says. -/
def Amount.holds : Amount → Nat → Bool
  | exactly n, m => m == n
  | more n, m => n < m
  | fewer n, m => m < n

/-- A condition on a file, or something that is done with it. -/
inductive FindStep where
  /-- A truth that does not depend on the file. -/
  | constant (holds : Bool)
  /-- A pattern for the name. -/
  | name (ignoresCase : Bool) (pattern : Pattern)
  /-- A pattern for the path. -/
  | path (ignoresCase : Bool) (pattern : Pattern)
  /-- A pattern for the target of a link. -/
  | target (ignoresCase : Bool) (pattern : Pattern)
  /-- An expression for the path. -/
  | expression (ignoresCase : Bool) (regex : Regex)
  /-- The letters of some kinds. -/
  | kind (letters : List Char)
  /-- The size in units. -/
  | size (amount : Amount) (unit : Nat)
  /-- A file or directory without content. -/
  | empty
  /-- It was written later than a time. -/
  | newer (time : Nat)
  /-- So many units of time have passed since it was written. -/
  | age (amount : Amount) (seconds : Nat) (roundsUp : Bool)
  /-- The rights: all of them and no others, all of them, or some of them. -/
  | mode (sign : Option Char) (bits : Nat)
  /-- The number of names. -/
  | names (amount : Amount)
  /-- Rights that the user has. -/
  | access (read write enter : Bool)
  /-- It stands at an address. -/
  | same (address : Address)
  /-- Show the path. -/
  | show (ending : ByteText)
  /-- Show what a format says. -/
  | fill (format : List Char)
  /-- Run a program for the file, perhaps after a question. -/
  | run (asks : Bool) (words : List ByteText)
  /-- Run a program for many files. -/
  | runTogether (number : Nat) (words : List ByteText)
  /-- Delete the file. -/
  | delete
  /-- Do not look into the directory. -/
  | prune
  /-- Look for no more files. -/
  | quit

/-- A query. -/
inductive FindQuery where
  /-- A single condition or action. -/
  | step (step : FindStep)
  /-- What does not hold. -/
  | not (query : FindQuery)
  /-- Both hold. -/
  | both (first second : FindQuery)
  /-- One of them holds. -/
  | either (first second : FindQuery)
  /-- The second one holds. The first one is only carried out. -/
  | afterwards (first second : FindQuery)

/-- How directories are gone through. -/
structure FindSettings where
  /-- The least depth of files that are looked at. -/
  least : Nat
  /-- The greatest depth. -/
  most : Option Nat
  /-- Whether directories come behind what they contain. -/
  contentsFirst : Bool
  /-- Whether links are followed everywhere. -/
  follows : Bool
  /-- Whether links are followed where the search starts. -/
  followsStarts : Bool
  /-- The way in which expressions are written, if it is not the usual one. -/
  style : Option Regex.Style
  /-- Whether the query does something with files. -/
  hasAction : Bool

/-! ### Words -/

/-- A word of a query. -/
inductive FindToken where
  /-- A parenthesis that opens. -/
  | opening
  /-- A parenthesis that closes. -/
  | closing
  /-- What follows must not hold. -/
  | not (word : ByteText)
  /-- Both sides hold. -/
  | both (word : ByteText)
  /-- One of the sides holds. -/
  | either (word : ByteText)
  /-- Both sides are carried out. -/
  | comma
  /-- A condition or an action. -/
  | step (step : FindStep)

/-- Whether a word belongs to the query and not to the places to look at. -/
def startsQuery (isFirst : Bool) (word : ByteText) : Bool :=
  match word.toList with
  | ['('] => true
  | ['!'] => true
  | [')'] => !isFirst
  | [','] => !isFirst
  | '-' :: _ :: _ => true
  | _ => false

/-- A text as a pattern. -/
def patternOfText (text : List Char) : Pattern :=
  Pattern.ofChars .plain (text.map fun c => ⟨c, false⟩)

/-- A pattern that does not depend on the case of letters if that is wanted. -/
def casedPattern (ignoresCase : Bool) (text : ByteText) : Pattern :=
  patternOfText (if ignoresCase then text.toList.map Char.toLower else text.toList)

/-- An expression with the signs of the usual way in place of those of the basic one: plus signs and
question marks are special by themselves. -/
def usualExpression : (inBrackets : Bool) → List Char → List Char
  | _, [] => []
  | true, c :: rest => c :: usualExpression (c != ']') rest
  | false, '\\' :: c :: rest =>
    (if c = '+' ∨ c = '?' then [c] else ['\\', c]) ++ usualExpression false rest
  | false, '+' :: rest => '\\' :: '+' :: usualExpression false rest
  | false, '?' :: rest => '\\' :: '?' :: usualExpression false rest
  | false, c :: rest => c :: usualExpression (c == '[') rest

/-- An amount with what is written behind its number. -/
def amountOf? (text : ByteText) : Option (Amount × List Char) :=
  let (make, digits) : (Nat → Amount) × List Char := match text.toList with
    | '+' :: rest => (.more, rest)
    | '-' :: rest => (.fewer, rest)
    | rest => (.exactly, rest)
  let number := digits.takeWhile Char.isDigit
  if number.isEmpty then none
  else (natural? (String.ofList number)).map fun n => (make n, digits.drop number.length)

/-! ### Reading queries -/

/-- What is read from the words of a query. -/
structure FindReader where
  /-- The words that are left. -/
  left : List ByteText
  /-- The word before them. -/
  previous : Option ByteText
  /-- What has been read. -/
  tokens : List FindToken
  /-- How directories are gone through. -/
  settings : FindSettings
  /-- The number of groups of files that programs are run for. -/
  groups : Nat

namespace FindReader

/-- A reader of queries. -/
abbrev R (α : Type) : Type :=
  StateT FindReader (Except ByteText) α

/-- Take the argument of a word away. -/
def argument (word : ByteText) : R ByteText := do
  match (← get).left with
  | [] => throw ("missing argument to \x60" ++ word ++ "'")
  | value :: rest =>
    modify fun r => { r with left := rest }
    return value

/-- Complain about the argument of a word. -/
def wrongArgument {α : Type} (word value : ByteText) : R α :=
  throw ("invalid argument \x60" ++ value ++ "' to \x60" ++ word ++ "'")

/-- The units of sizes. -/
def sizeUnits : List (List Char × Nat) :=
  [([], 512), (['b'], 512), (['c'], 1), (['w'], 2), (['k'], 1024), (['M'], 1048576),
    (['G'], 1073741824)]

/-- The kinds that letters between commas stand for. -/
def kinds : (isFirst : Bool) → List Char → Except ByteText (List Char)
  | isFirst, [] =>
    if isFirst then .error "Arguments to -type should contain at least one letter"
    else .error
      "Last file type in list argument to -type is missing, i.e., list is ending on: ','"
  | _, letter :: rest =>
    if !(['b', 'c', 'd', 'p', 'f', 'l', 's', 'D'].contains letter) then
      .error ("Unknown argument to -type: " ++ letter.toString)
    else
      match rest with
      | [] => .ok [letter]
      | ',' :: rest => (kinds false rest).map (letter :: ·)
      | _ => .error "Must separate multiple arguments to -type using: ','"

/-- The words of a program up to the sign that ends them, and whether it runs for many files. -/
def programWords (word : ByteText) (mayGroup : Bool) :
    (taken : List ByteText) → List ByteText → Except ByteText (List ByteText × Bool × List ByteText)
  | _, [] => .error ("missing argument to \x60" ++ word ++ "'")
  | taken, w :: rest =>
    if w = ";" then
      if taken.isEmpty then .error ("invalid argument \x60;' to \x60" ++ word ++ "'")
      else .ok (taken.reverse, false, rest)
    else if w = "+" && mayGroup && taken.head? == some "\x7b\x7d" then
      if taken.tail.contains "\x7b\x7d" then
        .error "Only one instance of \x7b\x7d is supported with -exec ... +"
      else .ok (taken.tail.reverse, true, rest)
    else programWords word mayGroup (w :: taken) rest

/-- Put a word behind those that have been read. -/
def push (token : FindToken) : R Unit :=
  modify fun r => { r with tokens := token :: r.tokens }

/-- Change how directories are gone through. The word holds for every file. -/
def adjust (change : FindSettings → FindSettings) : R Unit := do
  modify fun r => { r with settings := change r.settings }
  push (.step (.constant true))

/-- Put an action behind what has been read. -/
def act (step : FindStep) : R Unit := do
  modify fun r => { r with settings := { r.settings with hasAction := true } }
  push (.step step)

/-- Read the depth behind a word. -/
def depth (word : ByteText) : R Nat := do
  let value ← argument word
  match (natural? value).filter fun _ => !value.isEmpty with
  | some n => return n
  | none =>
    throw ("Expected a positive decimal integer argument to " ++ word ++ ", but got '" ++ value ++
      "'")

/-- Read the program behind a word. -/
def program (word : ByteText) (asks : Bool) : R Unit := do
  match programWords word (!asks) [] (← get).left with
  | .error message => throw message
  | .ok (words, isGroup, rest) =>
    let number := (← get).groups
    modify fun r => { r with left := rest, groups := number + 1 }
    act (if isGroup then .runTogether number words else .run asks words)

/-- Read a condition that compares a number. -/
def amount (word : ByteText) : R Amount := do
  let value ← argument word
  match amountOf? value with
  | some (amount, []) => return amount
  | _ => wrongArgument word value

/-- Read an expression for paths behind a word. -/
def expression (word : ByteText) : R Regex := do
  let value ← argument word
  let style := (← get).settings.style
  let text := if style.isNone then usualExpression false value.toList else value.toList
  match Regex.ofText (style.getD .basic) text with
  | .ok r => return r
  | .error fault =>
    throw ("failed to compile regular expression '" ++ value ++ "': " ++ fault.message)

/-- The ways in which expressions are written. -/
def styles : List (ByteText × Option Regex.Style) :=
  [("findutils-default", none), ("emacs", none), ("ed", some .basic), ("sed", some .basic),
    ("grep", some .basic), ("posix-basic", some .basic), ("posix-minimal-basic", some .basic),
    ("posix-awk", some .lenient), ("awk", some .lenient), ("gnu-awk", some .lenient),
    ("egrep", some .lenient), ("posix-egrep", some .lenient),
    ("posix-extended", some .extended)]

/-- The file that a word compares with: its address and what stands there. -/
def compared (s : Session) (word : ByteText) : R (Address × DiskNode) := do
  let path ← argument word
  match s.locate path, s.node path with
  | .ok address, .ok node => return (address, node)
  | .error fault, _ => throw (quotedName path ++ ": " ++ fault.reason)
  | _, .error fault => throw (quotedName path ++ ": " ++ fault.reason)

/-- Read a word of a query and what belongs to it. -/
def word (s : Session) (w : ByteText) : R Unit := do
  match w with
  | "(" => push .opening
  | ")" => push .closing
  | "!" => push (.not w)
  | "-not" => push (.not w)
  | "-a" => push (.both w)
  | "-and" => push (.both w)
  | "-o" => push (.either w)
  | "-or" => push (.either w)
  | "," => push .comma
  | "-true" => push (.step (.constant true))
  | "-false" => push (.step (.constant false))
  | "-name" => push (.step (.name false (casedPattern false (← argument w))))
  | "-iname" => push (.step (.name true (casedPattern true (← argument w))))
  | "-path" => push (.step (.path false (casedPattern false (← argument w))))
  | "-wholename" => push (.step (.path false (casedPattern false (← argument w))))
  | "-ipath" => push (.step (.path true (casedPattern true (← argument w))))
  | "-iwholename" => push (.step (.path true (casedPattern true (← argument w))))
  | "-lname" => push (.step (.target false (casedPattern false (← argument w))))
  | "-ilname" => push (.step (.target true (casedPattern true (← argument w))))
  | "-regex" => push (.step (.expression false (← expression w)))
  | "-iregex" => push (.step (.expression true (← expression w)))
  | "-regextype" =>
    let value ← argument w
    match styles.lookup value with
    | some style => adjust fun t => { t with style := style }
    | none => throw ("Unknown regular expression type " ++ quotedName value)
  | "-type" => push (.step (.kind (← kinds true (← argument w).toList)))
  | "-xtype" => push (.step (.kind (← kinds true (← argument w).toList)))
  | "-size" =>
    let value ← argument w
    match amountOf? value with
    | some (amount, unit) =>
      match sizeUnits.lookup unit with
      | some n => push (.step (.size amount n))
      | none =>
        throw ("invalid -size type \x60" ++ (unit.getLast?.elim "" Char.toString) ++ "'")
    | none =>
      throw ("invalid -size type \x60" ++ (value.toList.getLast?.elim "" Char.toString) ++ "'")
  | "-empty" => push (.step .empty)
  | "-newer" => push (.step (.newer (timeOf (← compared s w).2)))
  | "-anewer" => push (.step (.newer (timeOf (← compared s w).2)))
  | "-cnewer" => push (.step (.newer (timeOf (← compared s w).2)))
  | "-mtime" => push (.step (.age (← amount w) 86400 false))
  | "-atime" => push (.step (.age (← amount w) 86400 false))
  | "-ctime" => push (.step (.age (← amount w) 86400 false))
  | "-mmin" => push (.step (.age (← amount w) 60 true))
  | "-amin" => push (.step (.age (← amount w) 60 true))
  | "-cmin" => push (.step (.age (← amount w) 60 true))
  | "-perm" =>
    let value ← argument w
    let (sign, text) := match value.toList with
      | '-' :: rest => (some '-', rest)
      | '/' :: rest => (some '/', rest)
      | rest => (none, rest)
    match changedMode? 0 0 false (String.ofList text) with
    | some bits => push (.step (.mode sign bits))
    | none => throw ("invalid mode " ++ quotedName value)
  | "-links" => push (.step (.names (← amount w)))
  | "-readable" => push (.step (.access true false false))
  | "-writable" => push (.step (.access false true false))
  | "-executable" => push (.step (.access false false true))
  | "-samefile" => push (.step (.same (← compared s w).1))
  | "-print" => act (.show "\n")
  | "-print0" => act (.show "\x00")
  | "-printf" => act (.fill (← argument w).toList)
  | "-exec" => program w false
  | "-execdir" => program w false
  | "-ok" => program w true
  | "-okdir" => program w true
  | "-delete" =>
    modify fun r => { r with settings := { r.settings with contentsFirst := true } }
    act .delete
  | "-prune" => push (.step .prune)
  | "-quit" => act .quit
  | "-maxdepth" =>
    let n ← depth w
    adjust fun t => { t with most := some n }
  | "-mindepth" =>
    let n ← depth w
    adjust fun t => { t with least := n }
  | "-depth" => adjust fun t => { t with contentsFirst := true }
  | "-d" => adjust fun t => { t with contentsFirst := true }
  | "-follow" => adjust fun t => { t with follows := true }
  | "-xdev" => adjust id
  | "-mount" => adjust id
  | "-noleaf" => adjust id
  | "-daystart" => adjust id
  | "-warn" => adjust id
  | "-nowarn" => adjust id
  | w =>
    if w.startsWith "-" then throw ("unknown predicate \x60" ++ w ++ "'")
    else
      let hint := match (← get).previous, (s.entryAt w).isSome with
        | some previous, true =>
          "\nfind: possible unquoted pattern after predicate \x60" ++ previous ++ "'?"
        | _, _ => ""
      throw ("paths must precede expression: \x60" ++ w ++ "'" ++ hint)

/-- Read the words of a query. -/
def words (s : Session) : (fuel : Nat) → R Unit
  | 0 => return
  | fuel + 1 => do
    match (← get).left with
    | [] => return
    | w :: rest =>
      modify fun r => { r with left := rest }
      word s w
      if w.startsWith "-" then modify fun r => { r with previous := some w }
      words s fuel

/-! ### The structure of queries -/

/-- A reader of the words of a query. -/
abbrev Q (α : Type) : Type :=
  StateT (List FindToken) (Except ByteText) α

/-- Take a word away. -/
def skip : Q Unit :=
  modify fun tokens => tokens.drop 1

/-- Make sure that something stands behind a word. -/
def expectMore (word : ByteText) : Q Unit := do
  if (← get).isEmpty then throw ("expected an expression after '" ++ word ++ "'")

mutual

/-- Read what is carried out one behind the other. -/
def list : (fuel : Nat) → Q FindQuery
  | 0 => throw "invalid expression"
  | fuel + 1 => do
    let first ← alternatives fuel
    match ← get with
    | .comma :: _ =>
      skip
      expectMore ","
      return .afterwards first (← list fuel)
    | _ => return first

/-- Read alternatives. -/
def alternatives : (fuel : Nat) → Q FindQuery
  | 0 => throw "invalid expression"
  | fuel + 1 => do
    let first ← conditions fuel
    match ← get with
    | .either word :: _ =>
      skip
      expectMore word
      return .either first (← alternatives fuel)
    | _ => return first

/-- Read what has to hold together. -/
def conditions : (fuel : Nat) → Q FindQuery
  | 0 => throw "invalid expression"
  | fuel + 1 => do
    let first ← condition fuel
    match ← get with
    | .both word :: _ =>
      skip
      expectMore word
      return .both first (← conditions fuel)
    | .opening :: _ => return .both first (← conditions fuel)
    | .not _ :: _ => return .both first (← conditions fuel)
    | .step _ :: _ => return .both first (← conditions fuel)
    | _ => return first

/-- Read a single condition. -/
def condition : (fuel : Nat) → Q FindQuery
  | 0 => throw "invalid expression"
  | fuel + 1 => do
    let nothingBefore (word : ByteText) : Q FindQuery :=
      throw ("invalid expression; you have used a binary operator '" ++ word ++
        "' with nothing before it.")
    match ← get with
    | [] => return .step (.constant true)
    | .step step :: _ =>
      skip
      return .step step
    | .not word :: _ =>
      skip
      expectMore word
      return .not (← condition fuel)
    | .both word :: _ => nothingBefore word
    | .either word :: _ => nothingBefore word
    | .comma :: _ => nothingBefore ","
    | .closing :: _ => throw "invalid expression; you have too many ')'"
    | .opening :: rest =>
      skip
      match rest with
      | [] =>
        throw ("invalid expression; expected to find a ')' but didn't see one. " ++
          "Perhaps you need an extra predicate after '('")
      | .closing :: _ => throw "invalid expression; empty parentheses are not allowed."
      | _ =>
        let inner ← list fuel
        match ← get with
        | .closing :: _ =>
          skip
          return inner
        | _ =>
          throw ("invalid expression; I was expecting to find a ')' somewhere " ++
            "but did not see one.")

end

/-- Read a query from the words behind the places to look at. Files that are found are shown if
nothing else is done with them. -/
def query (s : Session) (follows followsStarts : Bool) (text : List ByteText) :
    Except ByteText (FindQuery × FindSettings) := do
  let settings : FindSettings := ⟨0, none, false, follows, followsStarts, none, false⟩
  let (_, r) ← (words s (text.length + 1)).run ⟨text, none, [], settings, 0⟩
  let tokens := r.tokens.reverse
  let (found, left) ← (list (4 * tokens.length + 8)).run tokens
  match left with
  | [] =>
    if r.settings.hasAction then return (found, r.settings)
    else return (.both found (.step (.show "\n")), r.settings)
  | _ => throw "you have too many ')'"

end FindReader

end DesignAtlas.Shell.Tools
