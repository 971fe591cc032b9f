import DesignAtlas.Shell.Builtin.Basic

/-!
# Builtin utilities for the state of the shell

How options are switched, words get other meanings, permissions of new files are limited, and what
is done when signals arrive.

* `setOptions` switches options and sets the arguments of the script, `trapSignals` says what is
  done at signals, `sendSignals` sends them.
-/

namespace DesignAtlas.Shell

open Text

/-! ### Options -/

/-- The names of options with their letters, in the order in which they are shown. -/
def optionNames : Dialect → List (String × Char)
  | .plain =>
    [("errexit", 'e'), ("noglob", 'f'), ("ignoreeof", 'I'), ("interactive", 'i'), ("monitor", 'm'),
      ("noexec", 'n'), ("stdin", 's'), ("xtrace", 'x'), ("verbose", 'v'), ("vi", 'V'),
      ("emacs", 'E'), ("noclobber", 'C'), ("allexport", 'a'), ("notify", 'b'), ("nounset", 'u'),
      ("privileged", 'p'), ("nolog", '1'), ("debug", '2')]
  | .rich =>
    [("allexport", 'a'), ("braceexpand", 'B'), ("emacs", '3'), ("errexit", 'e'), ("errtrace", 'E'),
      ("functrace", 'T'), ("hashall", 'h'), ("histexpand", 'H'), ("history", '4'),
      ("ignoreeof", '5'), ("interactive-comments", '6'), ("keyword", 'k'), ("monitor", 'm'),
      ("noclobber", 'C'), ("noexec", 'n'), ("noglob", 'f'), ("nolog", '1'), ("notify", 'b'),
      ("nounset", 'u'), ("onecmd", 't'), ("physical", 'P'), ("pipefail", '7'), ("posix", '8'),
      ("privileged", 'p'), ("verbose", 'v'), ("vi", '9'), ("xtrace", 'x')]

/-- Switch an option on or off. -/
def Session.switch (s : Session) (on : Bool) (letter : Char) : Session :=
  let others := s.options.filter (· != letter)
  { s with options := if on then others ++ [letter] else others }

/-- Complain about an option that is not known. -/
def refuseOption {α : Type} (name : ByteText) (isLetter : Bool) : Run α := do
  match (← get).dialect with
  | .plain => misuse ("Illegal option -" ++ (if isLetter then "" else "o ") ++ name)
  | .rich =>
    misuse (if isLetter then "-" ++ name ++ ": invalid option" else name ++ ": invalid option name")

/-- Write which options are on. -/
def listOptions (asCommands : Bool) : Run Unit := do
  let s ← get
  if s.dialect = .plain ∧ asCommands = false then write 1 "Current option settings\n"
  for (name, letter) in optionNames s.dialect do
    let isOn := s.hasOption letter || (s.dialect == .rich && ['B', 'h', '6'].contains letter)
    let width := 15
    let gap := String.ofList (List.replicate (width - name.length) ' ')
    write 1 <|
      if asCommands then "set " ++ (if isOn then "-o " else "+o ") ++ name ++ "\n"
      else name ++ gap ++ (if s.dialect = .plain then " " else "\t") ++
        (if isOn then "on" else "off") ++ "\n"

/-- Switch options. Gives the words behind them, if there is something for the arguments. -/
def switchOptions : (fuel : Nat) → List ByteText → Run (Option (List ByteText))
  | 0, _ => return none
  | fuel + 1, words => do
    match words with
    | [] => return none
    | first :: rest =>
      match first.toList with
      | ['-', '-'] => return some rest
      | ['-'] =>
        modify fun s => (s.switch false 'x').switch false 'v'
        return if rest.isEmpty then none else some rest
      | ['+'] =>
        match (← get).dialect with
        | .plain => switchOptions fuel rest
        | .rich => return some words
      | sign :: letters =>
        if sign ≠ '-' ∧ sign ≠ '+' then return some words
        let on := sign == '-'
        let d := (← get).dialect
        -- A name follows behind the letter for names.
        let named ← letters.foldlM (fun (rest : List ByteText) letter => do
          if letter = 'o' then
            match rest with
            | [] =>
              listOptions (!on)
              return rest
            | name :: rest =>
              match (optionNames d).lookup name with
              | some letter => modify fun s => s.switch on letter
              | none => refuseOption name false
              return rest
          else if (optionNames d).any fun known => known.2 == letter && !letter.isDigit then
            modify fun s => s.switch on letter
            return rest
          else refuseOption letter.toString true) rest
        switchOptions fuel named
      | [] => return some words

/-- Switch options and set the arguments of the script. -/
def setOptions : Utility := fun arguments => do
  match ← switchOptions (arguments.length + 1) arguments with
  | some words => modify fun s => { s with arguments := words }
  | none => pure ()
  return 0

/-! ### Other meanings of words -/

/-- A word with the text that it stands for, as a shell writes it. -/
def shownAlias (d : Dialect) (name : String) (text : ByteText) : ByteText :=
  match d with
  | .plain => name ++ "=" ++ quotedPlain text ++ "\n"
  | .rich => "alias " ++ name ++ "=" ++ quotedRich text ++ "\n"

/-- Let words stand for other texts. -/
def aliasAll : Utility := fun arguments => do
  let d := (← get).dialect
  let arguments := arguments.filter fun a => a != "--" && !(d == .rich && a == "-p")
  if arguments.isEmpty then
    let s ← get
    let sorted :=
      if d = .rich then s.aliases.mergeSort fun a b => decide (a.1 ≤ b.1) else s.aliases
    for (name, text) in sorted do write 1 (shownAlias d name text)
    return 0
  let mut status := 0
  for argument in arguments do
    let chars := argument.toList
    -- A sign in the first place belongs to the name.
    let name := chars.take 1 ++ (chars.drop 1).takeWhile (· != '=')
    let s ← get
    if name.length < chars.length then
      let text := String.ofList (chars.drop (name.length + 1))
      let name := String.ofList name
      let others := s.aliases.filter (·.1 != name)
      set { s with aliases := others ++ [(name, text)] }
    else
      match s.aliases.lookup argument with
      | some text => write 1 (shownAlias d argument text)
      | none =>
        status := 1
        match d with
        | .plain => write 2 ("alias: " ++ argument ++ " not found\n")
        | .rich => complain (argument ++ ": not found")
  return status

/-- Let words stand for themselves again. -/
def unaliasAll : Utility := fun arguments => do
  let (options, operands) ← optionsOf "a" arguments
  if hasFound 'a' options then
    modify fun s => { s with aliases := [] }
    return 0
  let mut status := 0
  for name in operands do
    let s ← get
    if (s.aliases.lookup name).isSome then
      set { s with aliases := s.aliases.filter (·.1 != name) }
    else
      status := 1
      match s.dialect with
      | .plain => write 2 ("unalias: " ++ name ++ " not found\n")
      | .rich => complain (name ++ ": not found")
  return status

/-! ### Permissions of new files -/

/-- The rights that a mask leaves to a class of users. -/
def rightsLeft (mask shift : Nat) : String :=
  let bits := 7 - (mask >>> shift) % 8
  String.join [if bits.testBit 2 then "r" else "", if bits.testBit 1 then "w" else "",
    if bits.testBit 0 then "x" else ""]

/-- A number with at least four octal digits. -/
def fourOctal (n : Nat) : String :=
  let digits := Nat.toDigits 8 n
  String.ofList (List.replicate (4 - digits.length) '0' ++ digits)

/-- A mode that a text changes another mode to. The text has octal digits, or clauses with classes
of users, signs and rights. Without classes, what the mask has is left alone. -/
def changedMode? (known mask : Nat) (isDirectory : Bool) (text : String) : Option Nat :=
  let chars := text.toList
  if !chars.isEmpty ∧ chars.all isOctalDigit then
    let n := digitsValue 8 chars
    if n < 0o10000 then some n else none
  else
    (text.splitOn ",").foldlM (fun mode clause =>
      let clause := clause.toList
      let classes := clause.takeWhile ['u', 'g', 'o', 'a'].contains
      clauseMode (clause.length + 1) classes mode (clause.drop classes.length)) known
where
  /-- The mode behind the actions of a clause. -/
  clauseMode (fuel : Nat) (classes : List Char) (mode : Nat) (actions : List Char) : Option Nat :=
    match fuel, actions with
    | _, [] => none
    | 0, _ => none
    | fuel + 1, sign :: rest =>
      if !(['+', '-', '='].contains sign) then none
      else
        let letters := rest.takeWhile ['r', 'w', 'x', 'X', 's', 't', 'u', 'g', 'o'].contains
        let behind := rest.drop letters.length
        let isAll := classes.isEmpty || classes.contains 'a'
        let has (c : Char) : Bool := isAll || classes.contains c
        let hasEnter := mode &&& 0o111 != 0
        let low := letters.foldl (fun bits c =>
          bits ||| (match c with
            | 'r' => 4
            | 'w' => 2
            | 'x' => 1
            | 'X' => if isDirectory || hasEnter then 1 else 0
            | 'u' => mode / 64 % 8
            | 'g' => mode / 8 % 8
            | 'o' => mode % 8
            | _ => 0)) 0
        let spread (bits : Nat) : Nat :=
          (if has 'u' then bits * 64 else 0) ||| (if has 'g' then bits * 8 else 0) |||
            (if has 'o' then bits else 0)
        let special := (if letters.contains 's' && has 'u' then 0o4000 else 0) |||
          (if letters.contains 's' && has 'g' then 0o2000 else 0) |||
          (if letters.contains 't' && (isAll || classes.contains 'o') then 0o1000 else 0)
        let limited (bits : Nat) : Nat :=
          if classes.isEmpty then bits - (bits &&& mask) else bits
        let named := limited (spread low) ||| special
        let result :=
          match sign with
          | '+' => mode ||| named
          | '-' => mode - (mode &&& named)
          | _ =>
            let cleared := spread 7 ||| (if isDirectory then 0 else
              (if has 'u' then 0o4000 else 0) ||| (if has 'g' then 0o2000 else 0))
            (mode - (mode &&& cleared)) ||| named
        if behind.isEmpty then some result else clauseMode fuel classes result behind

/-- Say or change which permissions new files do not get. -/
def limitMode : Utility := fun arguments => do
  let s ← get
  let (options, operands) ← optionsOf (if s.dialect = .plain then "S" else "Sp") arguments
  match operands with
  | [] =>
    write 1 <|
      if hasFound 'S' options then
        "u=" ++ rightsLeft s.mask 6 ++ ",g=" ++ rightsLeft s.mask 3 ++ ",o=" ++
          rightsLeft s.mask 0 ++ "\n"
      else (if hasFound 'p' options then "umask " else "") ++ fourOctal s.mask ++ "\n"
    return 0
  | text :: _ =>
    let chars := text.toList
    let mask? :=
      if chars.head?.any Char.isDigit then
        if chars.all isOctalDigit then some (digitsValue 8 chars % 0o1000) else none
      else (changedMode? (0o777 - s.mask) 0 true text).map (0o777 - · % 0o1000)
    match mask? with
    | some mask =>
      set { s with mask := mask }
      return 0
    | none =>
      match s.dialect with
      | .plain =>
        misuse (if chars.head?.any Char.isDigit then "Illegal number: " ++ text
          else "Illegal mode: " ++ text)
      | .rich => refuse 1 (text ++ ": octal number out of range")

/-! ### Signals -/

/-- The name of a signal as it is listed; 0 stands for the end of the shell. -/
def trapName (d : Dialect) (signal : Nat) : String :=
  if signal = 0 then "EXIT"
  else
    match d with
    | .plain => signalName signal
    | .rich => "SIG" ++ signalName signal

/-- The signal that a text names for a trap. -/
def trapNamed? (d : Dialect) (text : String) : Option Nat :=
  if text.toUpper = "EXIT" then some 0
  else
    match d, text.toUpper.toList with
    | .rich, 'S' :: 'I' :: 'G' :: name => signalNamed? (String.ofList name)
    | _, _ => signalNamed? text

/-- Say what is done when signals arrive. -/
def trapSignals : Utility := fun arguments => do
  let s ← get
  let d := s.dialect
  let (options, operands) ← optionsOf (if d = .plain then "" else "lp") arguments
  let listed (signals : List Nat) : Run Unit := do
    for signal in signals do
      match (← get).traps.lookup signal with
      | some action =>
        let quoted := if d = .plain then quotedPlain action else quotedRich action
        write 1 ("trap -- " ++ quoted ++ " " ++ trapName d signal ++ "\n")
      | none => pure ()
  if hasFound 'p' options then
    let signals := if operands.isEmpty then List.range 65 else operands.filterMap (trapNamed? d)
    listed signals
    return 0
  match operands with
  | [] =>
    listed (List.range 65)
    return 0
  | first :: rest =>
    let isNumber := first.toList.all Char.isDigit && (trapNamed? d first).isSome
    let (action, names) :=
      if rest.isEmpty || isNumber then (none, operands)
      else (if first = "-" then none else some first, rest)
    let mut status := 0
    for name in names do
      match trapNamed? d name with
      | some signal =>
        let others := (← get).traps.filter (·.1 != signal)
        let own := action.elim [] fun text => [(signal, text)]
        modify fun s => { s with traps := others ++ own }
      | none =>
        status := 1
        match d with
        | .plain => write 2 ("trap: " ++ name ++ ": bad trap\n")
        | .rich => complain (name ++ ": invalid signal specification")
        if d = .plain then return 1
    return status

/-- Whether a process is there. -/
def Session.isAlive (s : Session) (process : Nat) : Bool :=
  process == s.process || process == s.mainProcess || process == s.parent ||
    s.jobs.any fun job => job.process == process

/-- Send a signal to a process. A process that waits for its time ends at once, unless it takes care
of the signal. -/
def sendSignal (signal process : Nat) : Run Unit := do
  let s ← get
  if signal = 0 then return
  match s.jobs.find? (·.process == process) with
  | some job =>
    if harmlessSignals.contains signal then return
    match job.setting.traps.lookup signal with
    | some "" => if !sovereignSignals.contains signal then return
    | _ => pure ()
    set { s with
      jobs := s.jobs.filter (·.process != process),
      ended := (process, .killed signal) :: s.ended }
  | none => set { s with signals := s.signals ++ [(process, signal)] }

/-- List the names of signals, or of those that numbers stand for. -/
def listSignals (operands : List ByteText) : Run Nat := do
  let d := (← get).dialect
  match operands with
  | [] =>
    match d with
    | .plain =>
      write 1 "0\n"
      for n in List.range 65 do
        if 0 < n then
          write 1 ((if n < 32 then signalName n
            else if n = 34 then "RTMIN" else if n = 64 then "RTMAX"
            else if n < 34 then Nat.repr n
            else if n < 50 then "RTMIN+" ++ Nat.repr (n - 34)
            else "RTMAX-" ++ Nat.repr (64 - n)) ++ "\n")
    | .rich =>
      let known := (List.range 32).filter (0 < ·)
      for n in known do
        let number := Nat.repr n
        let gap := if number.length < 2 then " " else ""
        write 1 (gap ++ number ++ ") SIG" ++ signalName n ++
          (if n % 5 = 0 ∨ n = 31 then "\n" else "\t"))
    return 0
  | _ =>
    for text in operands do
      match natural? text with
      | some n =>
        let signal := if 128 < n then n - 128 else n
        match signalNames.lookup signal with
        | some name => write 1 (name ++ "\n")
        | none =>
          match d with
          | .plain => misuse ("invalid signal number or exit status: " ++ text)
          | .rich => misuse (text ++ ": invalid signal specification")
      | none =>
        match trapNamed? d text, d with
        | some signal, .rich => write 1 (Nat.repr signal ++ "\n")
        | _, .rich => misuse (text ++ ": invalid signal specification")
        | _, .plain => misuse ("Illegal number: " ++ text)
      if d = .plain then return 0
    return 0

/-- What is said about the use of the utility for signals. -/
def signalUsage : Dialect → ByteText
  | .plain =>
    "Usage: kill [-s sigspec | -signum | -sigspec] [pid | job]... or\nkill -l [exitstatus]"
  | .rich =>
    "usage: kill [-s sigspec | -n signum | -sigspec] pid | jobspec ... or kill -l [sigspec]"

/-- Send signals to processes. -/
def sendSignals : Utility := fun arguments => do
  let d := (← get).dialect
  let isList := arguments.head? == some "-l" || arguments.head? == some "-L"
  if isList then return ← listSignals arguments.tail
  let found : Except (Option ByteText) (Nat × List ByteText) :=
    match arguments with
    | [] => .error none
    | "--" :: rest => .ok (15, rest)
    | "-s" :: name :: rest =>
      match trapNamed? d name with
      | some signal => .ok (signal, rest.filter (· != "--"))
      | none => .error (some name)
    | "-n" :: name :: rest =>
      match trapNamed? d name with
      | some signal => .ok (signal, rest)
      | none => .error (some name)
    | first :: rest =>
      match first.toList with
      | '-' :: 's' :: name =>
        match trapNamed? d (String.ofList ('s' :: name)), trapNamed? d (String.ofList name) with
        | some signal, _ => .ok (signal, rest)
        | none, some signal => .ok (signal, rest)
        | none, none => .error (some (String.ofList name))
      | '-' :: name =>
        match trapNamed? d (String.ofList name) with
        | some signal => .ok (signal, rest)
        | none => .error (some (String.ofList name))
      | _ => .ok (15, first :: rest)
  match found with
  | .error none => misuse (signalUsage d)
  | .error (some name) =>
    match d with
    | .plain => misuse ("Illegal option -" ++ String.ofList (name.toList.take 1))
    | .rich => refuse 1 (name ++ ": invalid signal specification")
  | .ok (_, []) => misuse (signalUsage d)
  | .ok (signal, targets) =>
    let mut status := 0
    for target in targets do
      let s ← get
      let process? :=
        match target.toList with
        | '%' :: number =>
          let number := if number.isEmpty then some s.children.length
            else natural? (String.ofList number)
          number.bind fun n => s.children[n - 1]?
        | '-' :: number => natural? (String.ofList number)
        | _ => natural? target
      match process? with
      | none =>
        match d, target.toList with
        | .plain, '%' :: _ => misuse ("No such job: " ++ target)
        | .plain, _ => misuse ("Illegal number: " ++ target)
        | .rich, '%' :: _ =>
          complain (target ++ ": no such job")
          status := 1
        | .rich, _ =>
          complain (target ++ ": arguments must be process or job IDs")
          status := 1
      | some process =>
        -- In the plain dialect a job stands for a group of processes, which it has none of.
        if s.isAlive process && !(d = .plain && target.startsWith "%") then
          sendSignal signal process
        else
          status := 1
          match d with
          | .plain => complain "No such process\n"
          | .rich => complain ("(" ++ Nat.repr process ++ ") - No such process")
    return status

end DesignAtlas.Shell
