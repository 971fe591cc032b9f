import DesignAtlas.Shell.Builtin.Directories
import DesignAtlas.Shell.Builtin.Variables

/-!
# Builtin utilities of the rich dialect

How variables are declared with what is special about them, how expressions are calculated one by
one, how features are switched, and how whole inputs are read into arrays.

* `declareAll` declares variables.
-/

namespace DesignAtlas.Shell

open Text

/-- Whether an argument is an option of a declaration: a sign and letters. -/
def isDeclarationOption (word : ByteText) : Bool :=
  match word.toList with
  | '-' :: c :: _ => c != '-'
  | '+' :: _ :: _ => true
  | _ => false

/-- What a letter of a declaration changes in a variable. -/
def declarationChange (on : Bool) (letter : Char) (v : Variable) : Variable :=
  match letter with
  | 'a' =>
    match v.value with
    | .missing => { v with value := .indexed [] }
    | .text t => { v with value := .indexed [(0, t)] }
    | _ => v
  | 'A' =>
    match v.value with
    | .keyed _ => v
    | _ => { v with value := .keyed [] }
  | 'i' => { v with integer := on }
  | 'l' => { v with recasing := if on then some .lower else none }
  | 'u' => { v with recasing := if on then some .upper else none }
  | 'n' => { v with reference := on }
  | 'r' => if on then { v with readOnly := true } else v
  | 'x' => { v with exported := on }
  | _ => v

/-- Assign to a declared variable, whose value may have to be a number. -/
def assignDeclared (name : String) (appends : Bool) (value : ByteText) : Run Unit := do
  let s ← get
  let v := (s.binding? name).getD (.ofValue .missing)
  let known := if appends then s.textOf name else ""
  let text ←
    if v.integer then do
      let n ← calculate value
      let m ← if appends then calculate known else pure 0
      pure (Int.repr (wrapped (n + m)))
    else pure (known ++ value)
  assign name text

/-- Declare variables, inside a function as its own ones unless it is said otherwise. -/
def declareWith (isLocal : Bool) : Utility := fun arguments => do
  let options := arguments.takeWhile isDeclarationOption
  let operands := (arguments.drop options.length)
  let operands := if operands.head? = some "--" then operands.tail else operands
  let letters : List (Bool × Char) := options.flatMap fun o =>
    (o.toList.drop 1).map fun c => (o.toList.head? == some '-', c)
  let has (c : Char) : Bool := letters.any (·.2 == c)
  let s ← get
  if has 'f' || has 'F' then
    let missing := operands.filter fun name => (s.functions.lookup name).isNone
    if has 'F' then
      for name in operands do
        if (s.functions.lookup name).isSome then write 1 (name ++ "\n")
    return if missing.isEmpty then 0 else 1
  if has 'p' || operands.isEmpty then
    if operands.isEmpty then
      for (name, v) in sortedBindings s do write 1 (declaration name v)
      return 0
    let mut status := 0
    for name in operands do
      match s.bindings.lookup name with
      | some v => write 1 (declaration name v)
      | none =>
        complain (name ++ ": not found")
        status := 1
    return status
  for argument in operands do
    let (name, value) := nameAndValue argument
    let (name, appends) :=
      if name.endsWith "+" then (String.ofList name.toList.dropLast, true) else (name, false)
    let base := String.ofList (name.toList.takeWhile (· != '['))
    checkName base argument
    if isLocal && !has 'g' then
      let isNew := match (← get).frames with
        | frame :: _ => (frame.lookup base).isNone
        | [] => false
      makeLocal base
      -- A new variable of a function starts without a value.
      if isNew then
        modify fun s =>
          { s.forget base with bindings := (s.forget base).bindings ++
              [(base, { Variable.ofValue .missing with
                exported := (s.bindings.lookup base).any (·.exported) })] }
    -- Protection comes last.
    let early := letters.filter (·.2 != 'r')
    -- A name for another variable is not followed while it is declared.
    let change (letters : List (Bool × Char)) (s : Session) : Session :=
      let known := (s.bindings.lookup base).getD (.ofValue .missing)
      let changed := letters.foldl (fun v l => declarationChange l.1 l.2 v) known
      if (s.bindings.lookup base).isSome then
        { s with bindings := s.bindings.map fun b => if b.1 == base then (base, changed) else b }
      else { s with bindings := s.bindings ++ [(base, changed)] }
    let isReference := letters.contains (true, 'n')
    modify (change (early.filter (·.2 != 'n')))
    match value with
    | some value =>
      if base ≠ name then
        let key := String.ofList ((name.toList.drop (base.length + 1)).dropLast)
        assignElement base key appends value
      else assignDeclared base appends value
    | none => pure ()
    if isReference then modify (change [(true, 'n')])
    if letters.contains (true, 'r') then modify (change [(true, 'r')])
  return 0

/-- Declare variables. -/
def declareAll : Utility := fun arguments => do
  declareWith (!(← get).frames.isEmpty) arguments

/-- Declare the variables of a function. -/
def declareLocal : Utility := fun arguments => do
  if (← get).frames.isEmpty then refuse 1 "can only be used in a function"
  else declareWith true (arguments.filter (· != "-"))

/-- Calculate expressions. The status tells whether the last one is not 0. -/
def calculateAll : Utility := fun arguments => do
  let mut last : Int := 0
  for argument in arguments do
    last ← calculate argument
  return if last = 0 then 1 else 0

/-! ### Features -/

/-- The features that can be switched. -/
def featureNames : List String :=
  ["autocd", "assoc_expand_once", "cdable_vars", "cdspell", "checkhash", "checkjobs",
   "checkwinsize", "cmdhist", "compat31", "compat32", "compat40", "compat41", "compat42",
   "compat43", "compat44", "complete_fullquote", "direxpand", "dirspell", "dotglob", "execfail",
   "expand_aliases", "extdebug", "extglob", "extquote", "failglob", "force_fignore",
   "globasciiranges", "globskipdots", "globstar", "gnu_errfmt", "histappend", "histreedit",
   "histverify", "hostcomplete", "huponexit", "inherit_errexit", "interactive_comments", "lastpipe",
   "lithist", "localvar_inherit", "localvar_unset", "login_shell", "mailwarn",
   "no_empty_cmd_completion", "nocaseglob", "nocasematch", "noexpand_translation", "nullglob",
   "patsub_replacement", "progcomp", "progcomp_alias", "promptvars", "restricted_shell",
   "shift_verbose", "sourcepath", "varredir_close", "xpg_echo"]

/-- The features that are on from the start. -/
def startFeatures : List String :=
  ["checkwinsize", "cmdhist", "complete_fullquote", "extquote", "force_fignore", "globasciiranges",
   "globskipdots", "hostcomplete", "interactive_comments", "patsub_replacement", "progcomp",
   "promptvars", "sourcepath"]

/-- Switch features or say which are on. -/
def switchFeatures : Utility := fun arguments => do
  let (options, operands) ← optionsOf "supqo" arguments
  let isQuiet := hasFound 'q' options
  let unknown := operands.filter fun name => !featureNames.contains name
  for name in unknown do
    if hasFound 'o' options = false then complain (name ++ ": invalid shell option name")
  let names := operands.filter featureNames.contains
  if hasFound 's' options && !operands.isEmpty then
    modify fun s => { s with features := s.features.filter (!names.contains ·) ++ names }
    return if unknown.isEmpty then 0 else 1
  else if hasFound 'u' options && !operands.isEmpty then
    modify fun s => { s with features := s.features.filter (!names.contains ·) }
    return if unknown.isEmpty then 0 else 1
  else
    let s ← get
    let wanted (name : String) : Bool :=
      if hasFound 's' options then s.hasFeature name
      else if hasFound 'u' options then !s.hasFeature name
      else true
    let shown := if operands.isEmpty then featureNames.filter wanted else names
    for name in shown do
      if !isQuiet then
        let gap := String.ofList (List.replicate (15 - name.length) ' ')
        write 1 <|
          if hasFound 'p' options then
            "shopt " ++ (if s.hasFeature name then "-s " else "-u ") ++ name ++ "\n"
          else name ++ gap ++ "\t" ++ (if s.hasFeature name then "on" else "off") ++ "\n"
    return if unknown.isEmpty && names.all s.hasFeature then 0 else 1

/-! ### Whole inputs -/

/-- The lines of a text, each with its end. -/
def linesOfText (delimiter : Char) : (fuel : Nat) → List Char → List (List Char)
  | 0, _ => []
  | _ + 1, [] => []
  | fuel + 1, text =>
    let line := text.takeWhile (· != delimiter)
    let length := line.length + 1
    text.take length :: linesOfText delimiter fuel (text.drop length)

/-- Read the lines of the input into an array. -/
def readLines : Utility := fun arguments => do
  let (options, operands) ← optionsOf "d:n:O:s:tu:C:c:" arguments
  let value? (letter : Char) : Option ByteText := (options.find? (·.1 == letter)).map (·.2)
  let number (letter : Char) : Nat := ((value? letter).bind natural?).getD 0
  let delimiter := (value? 'd').elim '\n' fun text => text.toList.head?.getD '\x00'
  match ← readAll (((value? 'u').bind natural?).getD 0) with
  | .error fault => refuse 1 (fault.reason)
  | .ok text =>
    let lines := (linesOfText delimiter (text.length + 1) text.toList).drop (number 's')
    let lines := if number 'n' = 0 then lines else lines.take (number 'n')
    let cut (line : List Char) : List Char :=
      if hasFound 't' options && line.getLast? == some delimiter then line.dropLast else line
    let name := operands.headD "MAPFILE"
    let s ← get
    let known := if (value? 'O').isSome then (s.arrayValue name).indexedElements else []
    let elements := lines.zipIdx.foldl (fun elements line =>
      Value.insertAt (number 'O' + line.2) (String.ofList (cut line.1)) elements) known
    assignValue name (.indexed elements)
    return 0

end DesignAtlas.Shell
