import DesignAtlas.Shell.Builtin.Basic
import DesignAtlas.Shell.Calculation

/-!
# Builtin utilities for variables

How variables are shown to programs, protected, forgotten and read from the input, and how the
arguments of a script are taken apart.

* `readLine` reads a line into variables, `getOption` takes the next option from arguments.
-/

namespace DesignAtlas.Shell

open Text

/-- The name and the value of an argument that assigns a variable. -/
def nameAndValue (argument : ByteText) : String × Option ByteText :=
  let text := argument.toList
  let name := text.takeWhile (· != '=')
  (String.ofList name,
    if name.length < text.length then some (String.ofList (text.drop (name.length + 1))) else none)

/-- Complain about a text that can be no name. -/
def checkName (name : String) (argument : ByteText) : Run Unit := do
  if isName name = false then
    match (← get).dialect with
    | .plain => misuse (name ++ ": bad variable name")
    | .rich =>
      complain ("\x60" ++ argument ++ "': not a valid identifier")
      finish 1
      throw .failed

/-- A variable with its value, as a shell writes it. -/
def shownBinding (d : Dialect) (name : String) (v : Variable) : ByteText :=
  let quote (t : ByteText) : ByteText := if d = .plain then quotedPlain t else doubleQuotedRich t
  let shown (key : ByteText) (t : ByteText) : ByteText := "[" ++ key ++ "]=" ++ quote t
  match v.value with
  | .missing => name
  | .text t => name ++ "=" ++ quote t
  | .indexed elements =>
    name ++ "=(" ++ " ".intercalate (elements.map fun e => shown (Nat.repr e.1) e.2) ++ ")"
  | .keyed elements =>
    let key (t : ByteText) : ByteText := if hasSpecials t then doubleQuotedRich t else t
    name ++ "=(" ++ String.join ((Value.ordered elements).map fun e =>
      shown (key e.1) e.2 ++ " ") ++ ")"

/-- The letters that say what is special about a variable. -/
def declarationLetters (v : Variable) : ByteText :=
  let letters : List (Bool × Char) :=
    [(v.value matches .indexed _, 'a'), (v.value matches .keyed _, 'A'), (v.integer, 'i'),
      (v.recasing == some .lower, 'l'), (v.reference, 'n'), (v.readOnly, 'r'),
      (v.recasing == some .upper, 'u'), (v.exported, 'x')]
  let found := letters.filterMap fun l => if l.1 then some l.2 else none
  "-" ++ if found.isEmpty then "-" else String.ofList found

/-- A variable as the rich dialect declares it. -/
def declaration (name : String) (v : Variable) : ByteText :=
  "declare " ++ declarationLetters v ++ " " ++ shownBinding .rich name v ++ "\n"

/-- Variables in the order of their names. -/
def sortedBindings (s : Session) : List (String × Variable) :=
  s.bindings.mergeSort fun a b => decide (a.1 ≤ b.1)

/-- Write the variables that a predicate holds for, behind a word. -/
def listBindings (word : String) (p : Variable → Bool) : Run Unit := do
  let s ← get
  for (name, v) in sortedBindings s do
    if p v then
      match s.dialect with
      | .plain => write 1 (word ++ " " ++ shownBinding .plain name v ++ "\n")
      | .rich => write 1 (declaration name v)

/-- Assign the variables that arguments name, and change them otherwise. -/
def markVariables (change : Variable → Variable) (arguments : List ByteText) : Run Unit := do
  for argument in arguments do
    let (name, value) := nameAndValue argument
    let (name, appends) :=
      if name.endsWith "+" && (← get).dialect = .rich then
        (String.ofList name.toList.dropLast, true)
      else (name, false)
    checkName name argument
    match value with
    | some value =>
      let known := (← get).textOf name
      assign name (if appends then known ++ value else value)
    | none => pure ()
    modify fun s => s.modifyVariable name change

/-- Let programs see variables. -/
def exportAll : Utility := fun arguments => do
  let (options, operands) ← optionsOf (if (← get).dialect = .plain then "p" else "pfn") arguments
  if operands.isEmpty then listBindings "export" (·.exported)
  else if hasFound 'f' options then pure ()
  else markVariables (fun v => { v with exported := !hasFound 'n' options }) operands
  return 0

/-- Protect variables. -/
def protectAll : Utility := fun arguments => do
  let (options, operands) ← optionsOf (if (← get).dialect = .plain then "p" else "pfaA") arguments
  if operands.isEmpty then listBindings "readonly" (·.readOnly)
  else if hasFound 'f' options then pure ()
  else markVariables (fun v => { v with readOnly := true }) operands
  return 0

/-- Forget an element of an array. -/
def forgetElement (name : String) (key : ByteText) : Run Unit := do
  match (← get).arrayValue name with
  | .keyed elements => assignValue name (.keyed (elements.filter (·.1 != key)))
  | v =>
    if key = "@" ∨ key = "*" then assignValue name (.indexed [])
    else
      let place ← elementPlace name v key
      assignValue name (.indexed (v.indexedElements.filter (·.1 != place)))

/-- Forget variables or functions. -/
def forgetAll : Utility := fun arguments => do
  let d := (← get).dialect
  let (options, operands) ← optionsOf (if d = .plain then "vf" else "vfn") arguments
  let kind := (options.getLast?.map (·.1)).getD ' '
  for name in operands do
    let s ← get
    let isFunction := kind == 'f' ||
      (d == .rich && kind == ' ' && (s.binding? name).isNone && !name.toList.contains '[')
    if isFunction then
      set { s with functions := s.functions.filter (·.1 != name) }
    else
      let base := String.ofList (name.toList.takeWhile (· != '['))
      if d = .rich ∧ base ≠ name then
        let key := (name.toList.drop (base.length + 1)).dropLast
        forgetElement base (String.ofList key)
      else
        checkName name name
        if (s.binding? name).any (·.readOnly) then
          match d with
          | .plain => misuse (name ++ ": is read only")
          | .rich =>
            complain (name ++ ": cannot unset: readonly variable")
            finish 1
            throw .failed
        set (s.forget (s.target name))
        if name = "OPTIND" then modify fun s => { s with optionIndex := 1, optionPlace := none }
  return 0

/-- Let a function have variables for itself. -/
def localAll : Utility := fun arguments => do
  let s ← get
  if s.frames.isEmpty then
    finish 2
    complain "not in a function"
    throw .exit
  for argument in arguments do
    if argument = "-" then continue
    let (name, value) := nameAndValue argument
    checkName name argument
    makeLocal name
    match value with
    | some value => assign name value
    | none => modify fun s => s.modifyVariable name id
  return 0

/-- Move the arguments of the script. -/
def shift : Utility := fun arguments => do
  let count ←
    match arguments.filter (· != "--") with
    | [] => pure 1
    | text :: _ => numberArgument text
  let s ← get
  if s.arguments.length < count then
    match s.dialect with
    | .plain => misuse "can't shift that many"
    | .rich => return 1
  set { s with arguments := s.arguments.drop count }
  return 0

/-! ### Input -/

/-- How a line is read. -/
structure Reading where
  /-- Whether backslashes mean nothing. -/
  raw : Bool
  /-- The byte that ends the line. -/
  delimiter : UInt8
  /-- The number of characters to be read, if it is limited. -/
  count : Option Nat
  /-- Whether only the number of characters ends the line. -/
  exactly : Bool

/-- A line of bytes with quoted characters where backslashes stood, the number of bytes that it
takes with its end, and whether the end is there. -/
def takeLine (r : Reading) : List UInt8 → (taken : Nat) → (found : Nat) →
    List PatternChar × Nat × Bool
  | [], taken, _ => ([], taken, false)
  | b :: rest, taken, found =>
    let isEnd := b == r.delimiter && !r.exactly
    if r.count = some found then ([], taken, true)
    else if isEnd then ([], taken + 1, true)
    else
      match b == 92 && !r.raw, rest with
      | true, c :: rest =>
        if c = 10 then takeLine r rest (taken + 2) found
        else
          let (others, taken, isWhole) := takeLine r rest (taken + 2) (found + 1)
          (⟨ByteText.charOf c, true⟩ :: others, taken, isWhole)
      | true, [] => ([], taken + 1, false)
      | false, rest =>
        let (others, taken, isWhole) :=
          takeLine r rest (taken + 1) (if b = 0 then found else found + 1)
        if b = 0 then (others, taken, isWhole)
        else (⟨ByteText.charOf b, false⟩ :: others, taken, isWhole)

/-- Divide a line at separators into as many fields as there are. -/
def allFields (s : Separators) (line : List PatternChar) : List ByteText :=
  let atoms := line.map fun c => Atom.char c.char c.quoted (!c.quoted)
  (fieldsOfAtoms s none none atoms).map textOfChars

/-- Read a line of the input into variables. -/
def readLine : Utility := fun arguments => do
  let s ← get
  let (options, names) ←
    optionsOf (if s.dialect = .plain then "p:r" else "ersp:a:d:n:N:t:u:i:") arguments
  let value? (letter : Char) : Option ByteText := (options.find? (·.1 == letter)).map (·.2)
  if s.dialect = .plain ∧ names.isEmpty then misuse "arg count"
  for name in names do
    if s.dialect = .rich then checkName name name
  let descriptor := ((value? 'u').bind natural?).getD 0
  match s.unread descriptor with
  | .error fault =>
    match s.dialect with
    | .plain => return 1
    | .rich => refuse 1 ("read error: " ++ Nat.repr descriptor ++ ": " ++ fault.reason)
  | .ok bytes =>
    let delimiter : UInt8 :=
      match value? 'd' with
      | some text => (text.toList.head?.map ByteText.byteOf).getD 0
      | none => 10
    let count := ((value? 'n').orElse fun _ => value? 'N').bind natural?
    let reading : Reading :=
      ⟨hasFound 'r' options, delimiter, count, (value? 'N').isSome⟩
    let (line, taken, isWhole) := takeLine reading bytes 0 0
    set (s.consume descriptor taken)
    let separators := if (value? 'N').isSome then ⟨""⟩ else s.separators
    match value? 'a', names with
    | some name, _ =>
      let fields := allFields separators line
      assignValue name (.indexed (fields.zipIdx.map fun e => (e.2, e.1)))
    | none, [] => assign "REPLY" (textOfChars line)
    | none, names =>
      let fields := lineFields separators names.length line
      for (name, i) in names.zipIdx do
        checkName name name
        assign name (fields[i]?.getD "")
    return if isWhole then 0 else 1

/-! ### Options of scripts -/

/-- Take the next option from arguments. -/
def getOption : Utility := fun arguments => do
  match arguments with
  | known :: name :: given =>
    let s ← get
    let all := if given.isEmpty then s.arguments else given
    let index := if all.length + 1 < s.optionIndex then 1 else s.optionIndex
    let quiet := known.toList.head? == some ':'
    let place := s.optionPlace.getD 1
    let word := (all[index - 1]?.getD "").toList
    -- The plain dialect shows that an argument has been reached, the rich one that it is behind.
    let keep (index : Nat) (place : Option Nat) : Run Unit := do
      let isInside := s.dialect = .plain && place.isSome
      assign "OPTIND" (Nat.repr (if isInside then index + 1 else index))
      modify fun s => { s with optionIndex := max 1 index, optionPlace := place }
    let finished (index : Nat) : Run Nat := do
      keep index none
      assign name "?"
      modify fun s => s.forget "OPTARG"
      return 1
    if all.length < index ∨ word.length < 2 ∨ word.head? ≠ some '-' then finished index
    else if place = 1 ∧ word = ['-', '-'] then finished (index + 1)
    else
      let letter := word[place]?.getD '?'
      let isLast := word.length ≤ place + 1
      let next : Nat × Option Nat := if isLast then (index + 1, none) else (index, some (place + 1))
      let behind := (known.toList.dropWhile (· != letter))
      let speaker := if s.dialect = .plain then "" else s.script ++ ": "
      if letter = ':' ∨ behind.isEmpty then
        keep next.1 next.2
        assign name "?"
        if quiet then assign "OPTARG" letter.toString
        else
          modify fun s => s.forget "OPTARG"
          write 2 <|
            if s.dialect = .plain then "Illegal option -" ++ letter.toString ++ "\n"
            else speaker ++ "illegal option -- " ++ letter.toString ++ "\n"
        return 0
      else if (behind.drop 1).head? = some ':' then
        if !isLast then
          keep (index + 1) none
          assign name letter.toString
          assign "OPTARG" (String.ofList (word.drop (place + 1)))
          return 0
        else
          match all[index]? with
          | some value =>
            keep (index + 2) none
            assign name letter.toString
            assign "OPTARG" value
            return 0
          | none =>
            keep (index + 1) none
            if quiet then
              assign name ":"
              assign "OPTARG" letter.toString
            else
              assign name "?"
              modify fun s => s.forget "OPTARG"
              write 2 <|
                if s.dialect = .plain then "No arg for -" ++ letter.toString ++ " option\n"
                else speaker ++ "option requires an argument -- " ++ letter.toString ++ "\n"
            return 0
      else
        keep next.1 next.2
        assign name letter.toString
        assign "OPTARG" ""
        return 0
  | _ =>
    match (← get).dialect with
    | .plain => misuse "Usage: getopts optstring var [arg...]"
    | .rich => refuse 2 "usage: getopts optstring name [arg ...]"

end DesignAtlas.Shell
