import DesignAtlas.Shell.Reading.Commands
import DesignAtlas.Shell.Lookup
import DesignAtlas.Shell.Step

/-!
# Executors

Commands stand inside commands, texts are read as commands, and programs are shells in turn. What a
shell does with one of them is said in terms of an executor, which takes care of the others: so each
step stands on its own, and only the knot that ties them together is recursive.

* `Executor` carries out commands, programs and utilities.
* `Executor.runText` carries out a text line by line.
* `Executor.subshell` does the work of a shell in a process of its own, to its end.
-/

namespace DesignAtlas.Shell

open Text

/-- What carries out the commands, programs and utilities that come up. -/
structure Executor where
  /-- Carry out a command. Whether something looks at its status is known. -/
  command : (tested : Bool) → Command → Run Unit
  /-- Run a program that has been started, in the process that calls for it. -/
  program : Execution → Run Nat
  /-- Carry out a builtin utility, which belongs to the language or not. -/
  utility : (tested isSpecial : Bool) → (name : ByteText) → (arguments : List ByteText) → Run Unit

/-- The number of rounds that anything can go through. -/
def roundLimit : Nat := 1000000000

/-! ### Lines -/

/-- The source of a text that is carried out in a session. -/
def Session.sourceOf (s : Session) (line : Nat) (text : List Char) : Source :=
  Reading.sourceOf s.dialect s.documents (if s.dialect = .plain then s.aliases else [])
    (s.hasFeature "extglob") line text

/-- A source with what the session knows by now. -/
def Source.refreshed (source : Source) (s : Session) : Source :=
  { source with
    documents := s.documents,
    aliases := if s.dialect = .plain ∨ s.hasFeature "expand_aliases" then s.aliases else [],
    alternatives := s.hasFeature "extglob" }

/-- Say why a source cannot be read. The plain dialect gives up. The rich one names what the source
is part of, if it is no script. -/
def refuseSource (part : Option ByteText) (source : Source) (fault : SyntaxFault) : Run Unit := do
  modify fun s => { s with line := fault.line }
  match (← get).dialect with
  | .plain =>
    report fault.message
    finish 2
    throw .failed
  | .rich =>
    let s ← get
    let place := s.sourced.headD s.script ++ ": " ++ part.elim "" (· ++ ": ") ++ "line " ++
      Nat.repr s.line ++ ": "
    let lines := (String.ofList source.text).splitOn "\n"
    let line := (lines[fault.line - source.line]?).getD (lines.headD "")
    let text := match fault.cause with
      | .unexpected .ending _ => "syntax error: unexpected end of file"
      | .unexpected token _ => "syntax error near unexpected token \x60" ++ token.written ++ "'"
      | .openQuote quote =>
        "unexpected EOF while looking for matching \x60" ++ quote.toString ++ "'"
      | .openBracket closing => "unexpected EOF while looking for matching \x60" ++ closing ++ "'"
      | .openBackquote => "unexpected EOF while looking for matching \x60\x60'"
      | .bad what => "syntax error: bad " ++ what
      | .tooDeep => "syntax error: maximum depth reached"
    write 2 (place ++ text ++ "\n")
    match fault.cause with
    | .unexpected .ending _ => pure ()
    | .unexpected _ _ => write 2 (place ++ "\x60" ++ line ++ "'\n")
    | _ => pure ()
    finish 2

/-- Say how a process ended, if a signal ended it. -/
def sayEnding (e : Ending) : Run Unit :=
  match e with
  | .killed signal => do
    if signal ≠ 2 ∧ signal ≠ 13 then
      match (← get).dialect with
      | .plain => write 2 (signalText signal ++ "\n")
      | .rich =>
        if signal = 15 then write 2 (signalText signal ++ "\n")
        else say (Nat.repr ((← get).nextProcess - 1) ++ " " ++ signalText signal)
  | .exited _ => pure ()

/-- Read the next line of a source, which may be part of something. The session takes over what was
read. There is nothing if the source cannot be read any further. -/
def nextLine (part : Option ByteText) (source : Source) :
    Run (Option (Option Command × Source)) := do
  let s ← get
  match Reading.nextLine (source.refreshed s) with
  | .error fault =>
    refuseSource part source fault
    return none
  | .ok (c?, rest) =>
    if s.hasOption 'v' then
      write 2 (String.ofList (source.text.take (source.text.length - rest.text.length)))
    modify fun s => { s with documents := rest.documents, reached := rest.line }
    return some (c?, rest)

namespace Executor

variable (e : Executor)

/-- Carry out the command of a line. In the rich dialect a line that is given up does not keep the
next one from being carried out, unless the shell was made for the line only. -/
def runLine (tested : Bool) (c : Command) : Run Unit := do
  let s ← get
  try e.command tested c catch leave =>
    if leave = .failed ∧ s.dialect = .rich ∧ s.process = s.mainProcess then
      modify fun after =>
        { after with
          loops := s.loops, speaker := s.speaker, arguments := s.arguments,
          frames := s.frames, calls := s.calls, sourced := s.sourced }
    else throw leave

/-- Carry out a source line by line. It may be part of something. Without any command the status is
what it is taken to be then. -/
def runLines (tested : Bool) (part : Option ByteText) (otherwise : Option Nat) :
    (rounds : Nat) → Source → Run Unit
  | 0, _ => throw .exhausted
  | rounds + 1, source => do
    if source.text.isEmpty then
      match otherwise with
      | some status => finish status
      | none => pure ()
    else
      match ← nextLine part source with
      | none => return
      | some (none, rest) => runLines tested part otherwise rounds rest
      | some (some c, rest) =>
        e.runLine tested c
        runLines tested part none rounds rest

/-- Carry out a text line by line, from a given line on. Without any command the status is 0. -/
def runText (tested : Bool) (part : Option ByteText) (line : Nat) (text : List Char) :
    Run Unit := do
  let reached := (← get).reached
  e.runLines tested part (some 0) roundLimit ((← get).sourceOf line text)
  modify fun s => { s with reached := reached }

/-! ### Signals and ends -/

/-- Do what is to be done about the signals that have arrived. -/
def handleSignals : (rounds : Nat) → Run Unit
  | 0 => throw .exhausted
  | rounds + 1 => do
    let s ← get
    match s.signals.find? (·.1 == s.process) with
    | none => return
    | some (process, signal) =>
      let rest := s.signals.eraseP fun known => known.1 == process
      set { s with signals := rest }
      let action := if sovereignSignals.contains signal then none else s.traps.lookup signal
      match action with
      | some "" => pure ()
      | some action =>
        e.runText false (some "trap handler") 1 action.toList
        finish s.status
      | none => if !harmlessSignals.contains signal then throw (.killed signal)
      handleSignals rounds

/-- Do what is to be done about the signals that have arrived, if there are any. -/
def checkSignals : Run Unit := do
  if !(← get).signals.isEmpty then e.handleSignals roundLimit

/-- Do the work of a shell, and then what it is to do at its end. -/
def toItsEnd (work : Run Unit) : Run Unit := do
  let orEnd (work : Run Unit) : Run Unit :=
    try work catch
      | .exhausted => throw .exhausted
      | .killed signal => throw (.killed signal)
      | _ => pure ()
  orEnd do
    work
    e.checkSignals
  let s ← get
  match s.traps.lookup 0 with
  | none => return
  | some action =>
    let others := s.traps.filter (·.1 != 0)
    set { s with traps := others, leaving := some s.status, speaker := none }
    orEnd do
      e.runText false (some "exit trap") 1 action.toList
      finish s.status

/-- Do the work of a shell in a process of its own, to its end. -/
def subshell (work : Run Unit) : Run Ending :=
  inProcess do
    modify fun s =>
      { s with traps := ignoredTraps s.traps, leaving := none, children := [] }
    e.toItsEnd work

/-- The output of commands that are carried out in a shell of their own. In the rich dialect that
shell does not end with a command that fails. -/
def capture (c : Command) : Run ByteText := do
  let forgiving : Run Unit := modify fun s =>
    if s.dialect = .rich && !s.hasFeature "inherit_errexit" then
      { s with options := s.options.filter (· != 'e') }
    else s
  -- In the rich dialect, the content of a file is the output of a redirection alone.
  let c := match c, (← get).dialect with
    | .simple line [] [] [⟨0, .read, target⟩], .rich =>
      .simple line [] (["command", "-p", "cat"].map Word.ofText) [⟨0, .read, target⟩]
    | c, _ => c
  let (ending, text) ← captured (e.subshell do
    forgiving
    e.command false c)
  sayEnding ending
  modify fun s => { s with outputStatus := ending.status }
  if (← get).dialect = .rich then finish ending.status
  return text

end Executor

end DesignAtlas.Shell
