import DesignAtlas.CommandLine.Invocation

/-!
# Arguments

How the program's arguments are read. A command stands behind the options for all commands, and
its own options and operands follow in any order; the options for all commands may stand there
too, and then win. An option has a long name and often a letter. Its value is the next argument,
or follows the long name behind `=`, or the letter directly. Letters of options without a value
may be joined. Behind `--` only operands stand.

* `Invocation.ofArguments` reads the arguments of the program.
-/

namespace DesignAtlas

/-- Why arguments are not carried out. -/
inductive Interruption where
  /-- They are not well-formed. -/
  | usage
  /-- They ask for help. -/
  | help
  /-- They ask for the program's version. -/
  | version
  deriving DecidableEq, Repr

namespace Arguments

/-! ### Options -/

/-- The names of all options. -/
inductive OptionName where
  | root
  | settingsFile
  | verbose
  | quiet
  | help
  | version
  | json
  | compact
  | output
  | dryRun
  | shell
  | simulationOutput
  deriving DecidableEq, Repr

/-- What an option takes as its value. -/
inductive ValueKind where
  /-- No value. -/
  | nothing
  /-- A path, which is not empty. -/
  | path
  /-- Any text. -/
  | text
  /-- The name of a shell. -/
  | shell
  deriving DecidableEq, Repr

/-- An option as it is written. -/
structure OptionForm where
  /-- The option. -/
  name : OptionName
  /-- Its letter. -/
  letter : Option Char
  /-- Its long name. -/
  long : String
  /-- What it takes as its value. -/
  takes : ValueKind
  deriving DecidableEq, Repr

/-- The options for all commands. -/
def commonForms : List OptionForm :=
  [⟨.root, some 'r', "root", .path⟩, ⟨.settingsFile, some 'c', "config", .path⟩,
   ⟨.verbose, some 'v', "verbose", .nothing⟩, ⟨.quiet, some 'q', "quiet", .nothing⟩,
   ⟨.help, some 'h', "help", .nothing⟩]

/-- The options before the command. -/
def programForms : List OptionForm :=
  commonForms ++ [⟨.version, some 'V', "version", .nothing⟩]

/-- The options of the command that shows a project. -/
def treeForms : List OptionForm :=
  commonForms ++ [⟨.json, none, "json", .nothing⟩, ⟨.compact, none, "compact", .nothing⟩,
    ⟨.output, some 'o', "output", .path⟩]

/-- The options of the commands that act on a module. -/
def actionForms : List OptionForm :=
  commonForms ++ [⟨.dryRun, none, "dry-run", .nothing⟩, ⟨.shell, none, "shell", .shell⟩,
    ⟨.output, none, "output", .text⟩, ⟨.simulationOutput, none, "vvp-output", .text⟩]

/-- The shell of a name. -/
def shellNamed? (name : String) : Option ShellKind :=
  if name = "posix" then some .posix
  else if name = "powershell" then some .powershell
  else none

/-! ### What has been read -/

/-- The options and operands read so far. -/
structure Given where
  /-- The options with their values. -/
  options : List (OptionName × String)
  /-- The operands. -/
  operands : List String
  deriving DecidableEq, Repr

namespace Given

/-- Nothing has been read. -/
def none : Given :=
  ⟨[], []⟩

/-- The value of an option. -/
def value? (g : Given) (name : OptionName) : Option String :=
  g.options.lookup name

/-- Whether an option is given. -/
def has (g : Given) (name : OptionName) : Bool :=
  (g.value? name).isSome

/-- Whether a value is of the kind that an option takes. -/
def accepts (kind : ValueKind) (value : String) : Bool :=
  match kind with
  | .path => value != ""
  | .shell => (shellNamed? value).isSome
  | _ => true

/-- Add an option with its value. No option is given twice. -/
def addOption (g : Given) (form : OptionForm) (value : String) : Except Interruption Given :=
  match form.name with
  | .help => .error .help
  | .version => .error .version
  | name =>
    if g.has name || !accepts form.takes value then .error .usage
    else .ok { g with options := g.options ++ [(name, value)] }

/-- Add operands, up to the number that is allowed. -/
def addOperands (g : Given) (allowed : Nat) (operands : List String) :
    Except Interruption Given :=
  if allowed < (g.operands ++ operands).length then .error .usage
  else .ok { g with operands := g.operands ++ operands }

/-- At most one of the two options on how much is reported is given. -/
def checkVerbosity (g : Given) : Except Interruption Unit :=
  if g.has .verbose && g.has .quiet then .error .usage else .ok ()

end Given

/-! ### Reading arguments -/

/-- Read joined letters. The last of them may be an option that still lacks its value. -/
def readLetters (forms : List OptionForm) (g : Given) :
    List Char → Except Interruption (Given × Option OptionForm)
  | [] => .ok (g, none)
  | c :: rest =>
    match forms.find? fun form => form.letter == some c with
    | none => .error .usage
    | some form =>
      if form.takes = .nothing then
        match g.addOption form "" with
        | .error e => .error e
        | .ok g => readLetters forms g rest
      else
        match rest with
        | [] => .ok (g, some form)
        | '=' :: value => (g.addOption form (String.ofList value)).map fun g => (g, none)
        | value => (g.addOption form (String.ofList value)).map fun g => (g, none)

/-- Read a long name, with the value behind `=` if there is one. The option may still lack its
value. -/
def readLong (forms : List OptionForm) (g : Given) (text : List Char) :
    Except Interruption (Given × Option OptionForm) :=
  let name := String.ofList (text.takeWhile (· != '='))
  match forms.find? fun form => form.long == name with
  | none => .error .usage
  | some form =>
    match text.dropWhile (· != '='), form.takes with
    | [], .nothing => (g.addOption form "").map fun g => (g, none)
    | [], _ => .ok (g, some form)
    | _ :: _, .nothing => .error .usage
    | _ :: value, _ => (g.addOption form (String.ofList value)).map fun g => (g, none)

/-- How an argument is to be read. -/
inductive Shape where
  /-- The mark before operands. -/
  | mark
  /-- A long name. -/
  | long (text : List Char)
  /-- Joined letters. -/
  | letters (text : List Char)
  /-- An operand or a value. -/
  | plain

/-- The shape of an argument. A single hyphen is plain. -/
def shapeOf (argument : String) : Shape :=
  match argument.toList with
  | ['-', '-'] => .mark
  | '-' :: '-' :: text => .long text
  | ['-'] => .plain
  | '-' :: text => .letters text
  | _ => .plain

/-- Whether an argument can be a value of its own. -/
def isPlain (argument : String) : Bool :=
  match shapeOf argument with
  | .plain => true
  | _ => false

/-- Read options up to the first plain argument, with at most `allowed` operands behind the mark.
Gives what was read, and the plain argument with all that follow it. -/
def readOptions (forms : List OptionForm) (allowed : Nat) (g : Given) :
    List String → Except Interruption (Given × List String)
  | [] => .ok (g, [])
  | argument :: rest =>
    let read? :=
      match shapeOf argument with
      | .long text => some (readLong forms g text)
      | .letters text => some (readLetters forms g text)
      | _ => none
    match read?, shapeOf argument with
    | none, .mark => (g.addOperands allowed rest).map fun g => (g, [])
    | none, _ => .ok (g, argument :: rest)
    | some (.error e), _ => .error e
    | some (.ok (g, none)), _ => readOptions forms allowed g rest
    | some (.ok (g, some form)), _ =>
      match rest with
      | [] => .error .usage
      | value :: rest =>
        if isPlain value then
          match g.addOption form value with
          | .error e => .error e
          | .ok g => readOptions forms allowed g rest
        else .error .usage

theorem length_le_of_readOptions {forms : List OptionForm} {allowed : Nat} {g g' : Given}
    {arguments rest : List String} (h : readOptions forms allowed g arguments = .ok (g', rest)) :
    rest.length ≤ arguments.length := by
  fun_induction readOptions forms allowed g arguments with
  | case2 =>
    simp only [Except.map] at h
    split at h
    · simp at h
    · cases h
      simp
  | case5 =>
    rename_i ih
    exact Nat.le_succ_of_le (ih h)
  | case8 =>
    rename_i ih
    exact Nat.le_succ_of_le (Nat.le_succ_of_le (ih h))
  | _ => simp_all

/-- Read the options and operands of a command. -/
def readCommand (forms : List OptionForm) (allowed : Nat) (g : Given) (arguments : List String) :
    Except Interruption Given :=
  match h : readOptions forms allowed g arguments with
  | .error e => .error e
  | .ok (g, []) => .ok g
  | .ok (g, operand :: rest) =>
    match g.addOperands allowed [operand] with
    | .error e => .error e
    | .ok g =>
      have : rest.length < arguments.length := length_le_of_readOptions h
      readCommand forms allowed g rest
termination_by arguments.length

/-! ### Commands -/

/-- The root directory if none is given. -/
def defaultRoot : String := "."

/-- The invocation for a request, with the options given before and behind the command. -/
def invocation (before behind : Given) (request : Request) : Invocation :=
  let value? (name : OptionName) := (behind.value? name).or (before.value? name)
  { root := ⟨(value? .root).getD defaultRoot⟩
    settingsFile := (value? .settingsFile).map Path.mk
    verbosity :=
      if (value? .quiet).isSome then .quiet
      else if (value? .verbose).isSome then .verbose
      else .normal
    request := request }

/-- The request to show a project. -/
def treeRequest (g : Given) : Except Interruption Request :=
  let output := (g.value? .output).map Path.mk
  match g.has .json, g.has .compact with
  | false, true => .error .usage
  | false, false => .ok (.tree none output)
  | true, false => .ok (.tree (some .indented) output)
  | true, true => .ok (.tree (some .compact) output)

/-- The request to act on a module. -/
def actionRequest (action : Action) (g : Given) (query : String) : Request :=
  .act {
    action := action
    query := query
    dryRun := g.has .dryRun
    shell := ((g.value? .shell).bind shellNamed?).getD .posix
    compileOutput := g.value? .output
    simulationOutput := g.value? .simulationOutput }

/-- A command of the program. -/
structure Command where
  /-- The name of the command. -/
  name : String
  /-- The options of the command. -/
  forms : List OptionForm
  /-- The number of its operands. -/
  operands : Nat
  /-- The request that its options and operands make. -/
  request : Given → Except Interruption Request

/-- The request that the only operand makes. -/
def ofOperand (make : Given → String → Request) (g : Given) : Except Interruption Request :=
  match g.operands with
  | [operand] => .ok (make g operand)
  | _ => .error .usage

/-- The commands of the program. -/
def commands : List Command :=
  [⟨"tree", treeForms, 0, treeRequest⟩,
   ⟨"files", commonForms, 1, ofOperand fun _ query => .files query⟩,
   ⟨"check", actionForms, 1, ofOperand (actionRequest .check)⟩,
   ⟨"compile", actionForms, 1, ofOperand (actionRequest .compile)⟩,
   ⟨"run", actionForms, 1, ofOperand (actionRequest .run)⟩,
   ⟨"ls", commonForms, 1, ofOperand fun _ directory => .list directory⟩]

/-- The command of a name. -/
def commandNamed? (name : String) : Option Command :=
  commands.find? fun command => command.name == name

/-- Read a request for help on the commands named. -/
def readHelp (names : List String) : Interruption :=
  match names with
  | [] => .help
  | [name] => if name = "help" || (commandNamed? name).isSome then .help else .usage
  | _ => .usage

end Arguments

open Arguments in
/-- The invocation that the arguments of the program ask for. -/
def Invocation.ofArguments (arguments : List String) : Except Interruption Invocation := do
  let (before, rest) ← readOptions programForms 0 Given.none arguments
  match rest with
  | [] => .error .usage
  | name :: rest =>
    if name = "help" then .error (readHelp rest)
    match commandNamed? name with
    | none => .error .usage
    | some command =>
      let behind ← readCommand command.forms command.operands Given.none rest
      behind.checkVerbosity
      let request ← command.request behind
      before.checkVerbosity
      return invocation before behind request

end DesignAtlas
