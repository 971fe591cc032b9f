import DesignAtlas.Regex.Reader
import DesignAtlas.Shell.Executor

/-!
# Compound commands

Commands that are made of other commands: pipelines, loops, selections, and conditions about words.
The loops of a shell are told by what a round does when it is left early.

* `Executor.runPipeline` carries out the stages of a pipeline.
* `Executor.runLoop`, `Executor.runRounds` and `Executor.runCounted` are the loops.
* `Executor.conditionHolds` finds out whether a condition holds.
-/

namespace DesignAtlas.Shell

open Text

namespace Executor

variable (e : Executor)

/-! ### Pipelines -/

/-- Carry out a stage of a pipeline on an input, and give its status and what it wrote for the next
stage. The last stage writes where the pipeline does. -/
def runStage (tested : Bool) (input output : Option Nat) (stage : Command) : Run Nat := do
  let ending ← e.subshell do
    match input with
    | some i => modify fun s => s.lead 0 i
    | none => pure ()
    match output with
    | some i => modify fun s => s.lead 1 i
    | none => pure ()
    e.command tested stage
  sayEnding ending
  match output with
  | some i =>
    match (← get).streams[i]? with
    | some (.collector text _) => modify fun s => s.setStream i (.source text.toBytes)
    | _ => pure ()
  | none => pure ()
  match input with
  | some i => modify fun s => s.setStream i .nowhere
  | none => pure ()
  return ending.status

/-- Carry out stages, each on the output of the one before, and give their statuses. -/
def runStages (tested : Bool) (input : Option Nat) : List Command → Run (List Nat)
  | [] => return []
  | [last] => do return [← e.runStage tested input none last]
  | stage :: stages => do
    let (s, output) := (← get).withStream (.collector "" true)
    set s
    let status ← e.runStage tested input (some output) stage
    return status :: (← runStages tested (some output) stages)

/-- Carry out the stages of a pipeline. -/
def runPipeline (tested : Bool) (stages : List Command) : Run Unit := do
  let statuses ← e.runStages tested none stages
  modify fun s => { s with stageStatuses := statuses }
  let last := statuses.getLast?.getD 0
  let failed := if (← get).hasOption '7' then statuses.reverse.find? (· != 0) else none
  finish (failed.getD last)

/-! ### Loops -/

/-- Run rounds of a loop, after a round that ended with a status. -/
def runLoop (tested untilHolds : Bool) (test body : Command) :
    (rounds : Nat) → (status : Nat) → Run Unit
  | 0, _ => throw .exhausted
  | rounds + 1, status => do
    let goesOn ← roundGoesOn do
      e.command true test
      if ((← get).status == 0) != untilHolds then e.command tested body
      else
        finish status
        throw (.breakLoop 0)
    if goesOn then runLoop tested untilHolds test body rounds (← get).status

/-- Run a round of a loop for each of several values of a variable. -/
def runRounds (tested : Bool) (name : String) (body : Command) : List ByteText → Run Unit
  | [] => return
  | value :: values => do
    -- In the rich dialect, a variable that cannot be changed ends the loop only.
    let isDone ← tryCatch (do assign name value; return false) fun leave => do
      if leave = .failed && (← get).dialect = .rich then return true else throw leave
    if isDone then return
    if ← roundGoesOn (e.command tested body) then runRounds tested name body values

/-- Run rounds of a loop as long as a number is not 0. Without any round the status is 0. -/
def runCounted (tested : Bool) (test step : Run Int) (body : Command) :
    (rounds : Nat) → (isFirst : Bool) → Run Unit
  | 0, _ => throw .exhausted
  | rounds + 1, isFirst => do
    if (← test) ≠ 0 then
      if ← roundGoesOn (e.command tested body) then
        let _ ← step
        runCounted tested test step body rounds false
    else if isFirst then finish 0

/-! ### Selections -/

/-- Put a text into small letters, if the case of letters does not count. -/
def foldedCase (t : ByteText) : Run ByteText := do
  return if (← get).hasFeature "nocasematch" then recased .lower t else t

/-- Whether one of several patterns matches a text. -/
def anyMatches (text : ByteText) : List Word → Run Bool
  | [] => return false
  | w :: words => do
    let p ← patternOf e.capture w
    if p.matchesText (← foldedCase text).toList then return true else anyMatches text words

/-- Carry out the first branch of which a pattern matches a text, and those that it leads on to. A
branch can be reached whatever its patterns are. If there is no command in the last of them, the
status is 0. -/
def runBranches (tested : Bool) (text : ByteText) :
    (hasRun isReached : Bool) → List Branch → Run Unit
  | hasRun, _, [] => do if !hasRun then finish 0
  | hasRun, isReached, b :: branches => do
    let applies ← if isReached then pure true else e.anyMatches text b.patterns
    if applies then
      e.command tested b.body
      let hasRun := !(b.body matches .nothing)
      match b.ending with
      | .leave => if !hasRun then finish 0
      | .fallThrough => runBranches tested text hasRun true branches
      | .tryNext => runBranches tested text hasRun false branches
    else runBranches tested text hasRun false branches

/-! ### Conditions -/

/-- Whether a name has a value, which can be that of an element of an array. -/
def hasValue (text : ByteText) : Run Bool := do
  let s ← get
  match text.toList.dropWhile (· != '[') with
  | [] => return (s.assigned? text).isSome || !(s.arrayValue text).texts.isEmpty
  | _ :: key =>
    let name := String.ofList (text.toList.takeWhile (· != '['))
    let key := String.ofList key.dropLast
    match s.arrayValue name with
    | .keyed elements => return (elements.lookup key).isSome
    | v => return (v.indexedElements.lookup ((natural? key).getD 0)).isSome

/-- Whether a text contains a match of a regular expression. The groups of the match are kept. What
is quoted in the expression stands for itself. -/
def containsMatch (text : ByteText) (expression : List PatternChar) : Run Bool := do
  let special : List Char :=
    ['.', '[', ']', '(', ')', '*', '+', '?', '\x7b', '\x7d', '|', '^', '$', '\\']
  let expression := expression.flatMap fun c =>
    if c.quoted && special.contains c.char then ['\\', c.char] else [c.char]
  let keep (groups : List (Nat × ByteText)) : Run Unit :=
    modify fun s => s.modifyVariable "BASH_REMATCH" fun v => { v with value := .indexed groups }
  match Regex.ofText .extended expression with
  | .error _ =>
    finish 2
    return false
  | .ok r =>
    let subject : Regex.Subject :=
      ⟨text.toList.toArray, (← get).hasFeature "nocasematch", true, false⟩
    match r.search subject 0 with
    | none =>
      keep []
      return false
    | some m =>
      let count := (m.captures.map (·.1)).foldl max 0
      keep ((List.range (count + 1)).map fun n =>
        (n, String.ofList ((m.group? subject n).getD [])))
      return true

/-- Find out whether a condition holds. -/
def conditionHolds : Condition → Run Bool
  | .word w => do return !(← textOf e.capture .text w).isEmpty
  | .unary sign w => do
    let text ← textOf e.capture .text w
    match sign with
    | "-v" => hasValue text
    | "-o" => return ((optionNames .rich).lookup text).any (← get).hasOption
    | sign => return (← get).unaryTest sign text
  | .binary sign first second => do
    let text ← textOf e.capture .text first
    if sign = "=" ∨ sign = "==" ∨ sign = "!=" then
      return (← e.anyMatches text [second]) != (sign == "!=")
    else if sign = "=~" then containsMatch text (← wordChars e.capture expansionFuel second)
    else
      let other ← textOf e.capture .text second
      match (← get).binaryTest? sign text other with
      | some holds => return holds
      | none => return Session.numberTest sign (← calculate text) (← calculate other)
  | .negated c => do return !(← conditionHolds c)
  | .both first second => do
    if ← conditionHolds first then conditionHolds second else return false
  | .either first second => do
    if ← conditionHolds first then return true else conditionHolds second

end Executor

end DesignAtlas.Shell
