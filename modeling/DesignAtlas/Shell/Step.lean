import DesignAtlas.Shell.Builtin.Declarations
import DesignAtlas.Shell.Builtin.State
import DesignAtlas.Shell.Expansion
import DesignAtlas.Shell.Lookup
import DesignAtlas.Shell.Redirection

/-!
# Steps of a shell

What a shell does on its way from one command to the next: it opens and closes what is redirected,
assigns variables for a while, leaves loops, and describes what names stand for.

* `redirecting` does some work with descriptors that lead elsewhere.
* `Session.description?` says what a name stands for as a command.
-/

namespace DesignAtlas.Shell

open Text

/-! ### Redirections -/

section

variable (capture : Command → Run ByteText)

/-- The text of the target of a redirection, or what is wrong with it. -/
def targetText (r : Redirection) : Run (Except ByteText ByteText) := do
  match r.direction, (← get).dialect with
  | .document number, _ =>
    match (← get).documents[number]? with
    | some w => return .ok (← textOf capture .verbatim w)
    | none => return .ok ""
  | .line, _ => return .ok (← textOf capture .text r.target)
  | _, .plain => return .ok (← textOf capture .text r.target)
  | _, .rich =>
    match ← wordFields capture r.target with
    | [text] => return .ok text
    | _ => return .error (r.target.text ++ ": ambiguous redirect")

/-- Carry out redirections one by one, as long as it succeeds. -/
def redirectAll : List Redirection → Run Bool
  | [] => return true
  | r :: rest => do
    let result ←
      match ← targetText capture r with
      | .ok target => redirect r.descriptor r.direction target
      | .error message => pure (.error message)
    match result with
    | .ok () => redirectAll rest
    | .error message =>
      report message
      return false

/-- The descriptors that a redirection can lead elsewhere. -/
def changedDescriptors (r : Redirection) : List Nat :=
  match r.direction with
  | .replaceBoth => [1, 2]
  | .appendBoth => [1, 2]
  | .duplicateOutput => [r.descriptor, 2]
  | _ => [r.descriptor]

/-- Let descriptors lead where they led in an earlier setting. -/
def restoreDescriptors (before : Setting) (descriptors : List Nat) : Run Unit :=
  modify fun s => descriptors.foldl (fun s n =>
    match before.descriptors.lookup n with
    | some i => s.lead n i
    | none => s.close n) s

/-- Do some work with descriptors that lead elsewhere for a while. If they cannot be led there,
something else is done instead. -/
def redirecting (redirections : List Redirection) (work otherwise : Run Unit) : Run Unit := do
  if redirections.isEmpty then work
  else
    let before := (← get).toSetting
    let restore := restoreDescriptors before (redirections.flatMap changedDescriptors)
    let fine ← tryCatch (redirectAll capture redirections) fun leave => do
      restore
      throw leave
    if fine then
      try work catch leave =>
        restore
        throw leave
      restore
    else
      restore
      otherwise

/-! ### Assignments -/

/-- Give a variable an array. Elements without a place follow one another. -/
def assignArray (name : String) (appends : Bool) (elements : List (ElementOf Word)) :
    Run Unit := do
  match (← get).arrayValue name, appends with
  | .keyed known, appends =>
    let mut found := if appends then known else []
    for e in elements do
      match e.key with
      | some key =>
        let key ← textOf capture .verbatim key
        found := Value.insertKey key (← textOf capture .assigned e.value) found
      | none => pure ()
    assignValue name (.keyed found)
  | v, appends =>
    let mut found := if appends then v.indexedElements else []
    let mut next := if appends then v.nextIndex else 0
    for e in elements do
      match e.key with
      | some key =>
        let place ← elementPlace name (.indexed found) (← textOf capture .verbatim key)
        found := Value.insertAt place (← textOf capture .assigned e.value) found
        next := place + 1
      | none =>
        for field in ← wordFields capture e.value do
          found := Value.insertAt next field found
          next := next + 1
    assignValue name (.indexed found)

/-- Carry out an assignment. -/
def carryOutAssignment (a : Assignment) : Run Unit := do
  match a.assigned with
  | .array elements => assignArray capture a.name a.appends elements
  | .text w =>
    let value ← textOf capture .assigned w
    match (← get).dialect, a.key with
    | .plain, _ => assign a.name value
    | .rich, some key => assignElement a.name (← textOf capture .verbatim key) a.appends value
    | .rich, none => assignDeclared a.name a.appends value

/-- An assignment as it is traced. -/
def tracedAssignment (a : Assignment) : Run ByteText := do
  let s ← get
  match a.assigned with
  | .array _ => return a.name ++ (if a.appends then "+=" else "=") ++ "()"
  | .text _ =>
    let value := s.textOf a.name
    return a.name ++ "=" ++ if s.dialect = .plain then value else shownRich value

end

/-! ### Loops and numbers -/

/-- Run one round of a loop, and find out whether the loop goes on. -/
def roundGoesOn (work : Run Unit) : Run Bool := do
  let loops := (← get).loops
  modify fun s => { s with loops := loops + 1 }
  let goesOn ← tryCatch (do work; return true) fun leave =>
    match leave with
    | .breakLoop 0 => return false
    | .breakLoop (outer + 1) => throw (.breakLoop outer)
    | .nextRound 0 => return true
    | .nextRound (outer + 1) => throw (.nextRound outer)
    | leave => throw leave
  modify fun s => { s with loops := loops }
  return goesOn

/-- Leave so many loops as the first argument says, or as there are. -/
def leaveLoops (leave : Nat → Leave) : Utility := fun arguments => do
  let s ← get
  if s.dialect = .rich && s.loops = 0 then
    complain "only meaningful in a \x60for', \x60while', or \x60until' loop"
    return 0
  let count ← match arguments with
    | [] => pure 1
    | text :: _ => numberArgument text
  if count = 0 then
    match (← get).dialect with
    | .plain => misuse "Illegal number: 0"
    | .rich => return ← refuse 1 "0: loop count out of range"
  match min count (← get).loops with
  | 0 => return 0
  | outer + 1 =>
    finish 0
    throw (leave outer)

/-- Whether a shell ends with a command that fails, unless something looks at its status. -/
def checkStatus (tested : Bool) : Run Unit := do
  let s ← get
  if s.hasOption 'e' && !tested && s.status != 0 then throw .exit

/-! ### Descriptions -/

/-- The builtin utilities that belong to the language. Assignments before them stay, and a
redirection that fails ends the shell. -/
def specialBuiltins : List String :=
  [":", ".", "break", "continue", "eval", "exec", "exit", "export", "readonly", "return", "set",
   "shift", "times", "trap", "unset"]

/-- The utilities whose arguments can be assignments. -/
def assigningBuiltins : Dialect → List String
  | .plain => ["alias", "export", "readonly", "local"]
  | .rich => ["export", "readonly", "local", "declare", "typeset", "alias"]

/-- The words of the language. -/
def keywords : Dialect → List String
  | .plain =>
    ["!", "case", "do", "done", "elif", "else", "esac", "fi", "for", "if", "in", "then", "until",
     "while", "\x7b", "\x7d"]
  | .rich =>
    ["!", "case", "do", "done", "elif", "else", "esac", "fi", "for", "if", "in", "then", "until",
     "while", "\x7b", "\x7d", "[[", "]]", "function", "time", "select", "coproc"]

/-- What a name stands for as a command. -/
inductive Description where
  /-- A word of the language. -/
  | keyword
  /-- Another text. -/
  | replaced (text : ByteText)
  /-- A function. -/
  | function
  /-- A builtin utility. -/
  | builtin (isSpecial : Bool)
  /-- A program. -/
  | program (path : ByteText) (isTracked : Bool)

namespace Description

/-- The description in one word. -/
def short (name : ByteText) : Description → ByteText
  | replaced text => "alias " ++ name ++ "=" ++ quotedPlain text
  | program path _ => path
  | _ => name

/-- The description in a sentence. -/
def long (d : Dialect) (name : ByteText) (description : Description) : ByteText :=
  match description, d with
  | keyword, _ => name ++ " is a shell keyword"
  | replaced text, .plain => name ++ " is an alias for " ++ text
  | replaced text, .rich => name ++ " is aliased to \x60" ++ text ++ "'"
  | function, .plain => name ++ " is a shell function"
  | function, .rich => name ++ " is a function"
  | builtin true, .plain => name ++ " is a special shell builtin"
  | builtin _, _ => name ++ " is a shell builtin"
  | program path true, .plain => name ++ " is a tracked alias for " ++ path
  | program path true, .rich => name ++ " is hashed (" ++ path ++ ")"
  | program path false, _ => name ++ " is " ++ path

/-- The kind of a description. -/
def kind : Description → ByteText
  | keyword => "keyword"
  | replaced _ => "alias"
  | function => "function"
  | builtin _ => "builtin"
  | program _ _ => "file"

end Description

/-- What a name stands for as a command. -/
def Session.description? (s : Session) (builtins : List String) (searchPath name : ByteText) :
    Option Description :=
  let alias? := (s.aliases.lookup name).map Description.replaced
  let keyword? := if (keywords s.dialect).contains name then some Description.keyword else none
  let function? := (s.functions.lookup name).map fun _ => Description.function
  let builtin? :=
    if specialBuiltins.contains name then some (Description.builtin true)
    else if builtins.contains name then some (Description.builtin false)
    else none
  let path? := match s.dialect with
    | .plain => s.programPath? searchPath name
    | .rich =>
      (s.programPath? searchPath name).or
        (if isPath name then none else s.filePath? searchPath name)
  let program? := path?.map fun path =>
    Description.program path (s.tracked.contains name && !isPath name)
  match s.dialect with
  | .plain => keyword?.or <| alias?.or <| function?.or <| builtin?.or program?
  | .rich => keyword?.or <| function?.or <| builtin?.or program?

/-- Describe a name as a command, and find out whether it stands for one. -/
def describe (builtins : List String) (searchPath : ByteText) (isLong : Bool) (name : ByteText) :
    Run Bool := do
  let s ← get
  match s.description? builtins searchPath name with
  | some d =>
    match d with
    | .program _ _ =>
      if s.dialect = .plain then set { s with tracked := name :: s.tracked.filter (· != name) }
    | _ => pure ()
    write 1 ((if isLong then d.long s.dialect name else d.short name) ++ "\n")
    return true
  | none =>
    if isLong then
      match s.dialect with
      | .plain => write 1 (name ++ ": not found\n")
      | .rich => complain (name ++ ": not found")
    return false

/-! ### Starting shells -/

/-- A fresh setting for a shell in a process. Of the variables it has those that programs see. -/
def Session.freshSetting (s : Session) (d : Dialect) (script : ByteText)
    (arguments : List ByteText) : Setting :=
  let environment := s.environment.filter fun known =>
    isName known.1 && !(["IFS", "PPID", "OPTIND", "PS1", "PS2", "PS4"].contains known.1)
  let physical := ByteText.ofText (Disk.shownPath s.directory)
  let shown :=
    match environment.lookup "PWD" with
    | some path =>
      let leadsHere := (s.locate path).toOption == some s.directory
      if path.toList.head? = some '/' ∧ leadsHere then path else physical
    | none => physical
  let exported := (environment.filter (·.1 != "PWD")).map fun known =>
    (known.1, { Variable.ofText known.2 with exported := true })
  let own (name : String) (text : ByteText) : String × Variable := (name, .ofText text)
  let searchPath :=
    if (environment.lookup "PATH").isSome then [] else [own "PATH" standardPath]
  let common : List (String × Variable) :=
    exported ++ searchPath ++ [("PWD", { Variable.ofText shown with exported := true }),
      own "IFS" " \t\n", own "OPTIND" "1", own "PS4" "+ ", own "PPID" (Nat.repr s.parent)]
  let special : List (String × Variable) :=
    match d with
    | .plain => [own "PS1" "$ ", own "PS2" "> "]
    | .rich =>
      [own "BASH" "/usr/bin/bash", own "BASH_VERSION" "5.2.15(1)-release",
        ("BASH_VERSINFO", .ofValue (.indexed [(0, "5"), (1, "2"), (2, "15"), (3, "1"),
          (4, "release"), (5, "x86_64-pc-linux-gnu")])),
        own "HOSTTYPE" "x86_64", own "OSTYPE" "linux-gnu", own "MACHTYPE" "x86_64-pc-linux-gnu",
        own "UID" "1000", own "EUID" "1000",
        ("SHLVL", { Variable.ofText (Nat.repr
          (((environment.lookup "SHLVL").bind natural?).getD 0 + 1)) with exported := true })]
  let isNew (known : String × Variable) : Bool := !(special.any fun own => own.1 == known.1)
  { dialect := d, directory := s.directory, shownDirectory := shown,
    bindings := common.filter isNew ++ special,
    functions := [], aliases := [], tracked := [], frames := [], options := [],
    features := if d = .rich then startFeatures else [],
    script := script, arguments := arguments, status := 0, outputStatus := 0,
    stageStatuses := [0], loops := 0, calls := [], sourced := [],
    traps := ignoredTraps s.traps,
    leaving := none, process := s.process, mainProcess := s.process, parent := s.parent,
    lastJob := none, children := [], line := 0, reached := 0, speaker := none,
    descriptors := s.descriptors, mask := s.mask, optionIndex := 1, optionPlace := none }

end DesignAtlas.Shell
