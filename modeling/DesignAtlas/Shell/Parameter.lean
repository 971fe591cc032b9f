import DesignAtlas.Shell.Field
import DesignAtlas.Shell.Session

/-!
# Parameters

What the names and signs behind a dollar sign stand for, and how variables are changed.

* `Session.found` is what a parameter stands for: one value, or several of them.
* `assign` gives a variable a text, unless it cannot be changed.
-/

namespace DesignAtlas.Shell

/-- What a parameter stands for. -/
inductive Found where
  /-- One value, if there is any. -/
  | one (value : Option ByteText)
  /-- Several values, to be joined or each for itself. -/
  | several (texts : List ByteText) (joined : Bool)
  deriving DecidableEq, Repr

namespace Session

/-- The variable that a name leads to by way of other names. -/
def resolved (s : Session) : (fuel : Nat) → String → String
  | 0, name => name
  | fuel + 1, name =>
    match s.bindings.lookup name with
    | some v =>
      match v.reference, v.value with
      | true, .text other => if isName other then s.resolved fuel other else name
      | _, _ => name
    | none => name

/-- The name of the variable that a name stands for. -/
def target (s : Session) (name : String) : String :=
  match s.dialect with
  | .plain => name
  | .rich => s.resolved 10 name

/-- A variable. -/
def binding? (s : Session) (name : String) : Option Variable :=
  s.bindings.lookup (s.target name)

/-- The arrays that the rich dialect keeps by itself. -/
def ownArray? (s : Session) (name : String) : Option (List ByteText) :=
  match s.dialect, name with
  | .rich, "PIPESTATUS" => some (s.stageStatuses.map Nat.repr)
  | .rich, "FUNCNAME" => if s.calls.isEmpty then none else some (s.calls ++ ["main"])
  | .rich, "BASH_SOURCE" =>
    some (s.calls.map (fun _ => s.sourced.headD s.script) ++ s.sourced ++ [s.script])
  | _, _ => none

/-- The texts that the rich dialect keeps by itself. -/
def ownText? (s : Session) (name : String) : Option ByteText :=
  match s.dialect, name with
  | .rich, "LINENO" => some (Nat.repr s.line)
  | .rich, "BASHPID" => some (Nat.repr s.process)
  | .rich, "SECONDS" => some (Nat.repr ((s.disk.clock - s.disk.made) / 1000000000))
  | .rich, "EPOCHSECONDS" => some (Nat.repr (s.disk.clock / 1000000000))
  | .rich, "RANDOM" => some (Nat.repr (s.seed / 65536 % 32768))
  | .rich, name => (s.ownArray? name).bind List.head?
  | .plain, _ => none

/-- The text of a variable. -/
def assigned? (s : Session) (name : String) : Option ByteText :=
  match s.ownText? name with
  | some text => some text
  | none => (s.binding? name).bind fun v => v.value.text?

/-- The text of a variable, and the empty text for one that is missing. -/
def textOf (s : Session) (name : String) : ByteText :=
  (s.assigned? name).getD ""

/-- The characters that divide fields. -/
def separators (s : Session) : Separators :=
  match s.assigned? "IFS" with
  | some text => ⟨text⟩
  | none => .standard

/-- The letters of options, in the order in which they are shown. -/
def optionLetters : List Char :=
  ['u', 'b', 'a', 'C', 'E', 'V', 'v', 'x', 's', 'n', 'm', 'i', 'I', 'f', 'e']

/-- The letters of the options that are on. -/
def shownOptions (s : Session) : ByteText :=
  match s.dialect with
  | .plain => String.ofList (optionLetters.filter s.options.contains)
  | .rich =>
    let letters := ['a', 'b', 'e', 'f', 'h', 'i', 'k', 'm', 'n', 'p', 'r', 't', 'u', 'v', 'x', 'B',
      'C', 'E', 'H', 'P', 'T', 'c', 's']
    String.ofList (letters.filter fun c => s.options.contains c || c == 'h' || c == 'B')

/-- What a parameter stands for. -/
def found (s : Session) (name : String) : Found :=
  match name with
  | "#" => .one (some (Nat.repr s.arguments.length))
  | "?" => .one (some (Nat.repr s.status))
  | "*" => .several s.arguments true
  | "@" => .several s.arguments false
  | "$" => .one (some (Nat.repr s.mainProcess))
  | "!" => .one (s.lastJob.map Nat.repr)
  | "-" => .one (some s.shownOptions)
  | "_" => .one (s.assigned? "_")
  | name =>
    match name.toNat? with
    | some 0 => .one (some s.script)
    | some (n + 1) => .one s.arguments[n]?
    | none => .one (s.assigned? name)

/-- The value of an array. -/
def arrayValue (s : Session) (name : String) : Value :=
  match s.ownArray? name with
  | some texts => .indexed (texts.zipIdx.map fun e => (e.2, e.1))
  | none => ((s.binding? name).map (·.value)).getD .missing

/-- Change a variable, or make it. -/
def modifyVariable (s : Session) (name : String) (change : Variable → Variable) : Session :=
  let name := s.target name
  if (s.bindings.lookup name).isSome then
    { s with bindings := s.bindings.map fun b =>
        if b.1 == name then (b.1, change b.2) else b }
  else
    let fresh := { Variable.ofValue .missing with exported := s.hasOption 'a' }
    { s with bindings := s.bindings ++ [(name, change fresh)] }

/-- Forget a variable. -/
def forget (s : Session) (name : String) : Session :=
  { s with bindings := s.bindings.filter fun b => b.1 != name }

/-- The variables that programs see, with their texts. -/
def environment (s : Session) : List (String × ByteText) :=
  s.bindings.filterMap fun b =>
    match b.2.exported, b.2.value with
    | true, .text t => some (b.1, t)
    | _, _ => none

end Session

/-- The number that a text of decimal digits stands for. -/
def natural? (text : ByteText) : Option Nat :=
  if text.toList.all Char.isDigit then text.toNat? else none

/-- The letters of a text in another case. -/
def recased (r : Recasing) (t : ByteText) : ByteText :=
  String.ofList (t.toList.map fun c =>
    match r with
    | .upper => c.toUpper
    | .lower => c.toLower
    | .other => if c.isUpper then c.toLower else c.toUpper)

/-- Complain that a variable cannot be changed, and give up. -/
def refuseChange {α : Type} (name : String) : Run α := do
  match (← get).dialect with
  | .plain => giveUp (name ++ ": is read only")
  | .rich =>
    complain (name ++ ": readonly variable")
    finish 1
    throw .failed

/-- Give a variable a value, unless it cannot be changed. -/
def assignValue (name : String) (value : Value) : Run Unit := do
  let s ← get
  if (s.binding? name).any (·.readOnly) then refuseChange name
  let value :=
    match (s.binding? name).bind (·.recasing), value with
    | some r, .text t => .text (recased r t)
    | _, value => value
  set (s.modifyVariable name fun v => { v with value := value })
  if name = "OPTIND" then
    modify fun s =>
      let index := (natural? (s.textOf "OPTIND")).getD 1
      { s with optionIndex := max 1 index, optionPlace := none }

/-- Give a variable a text, unless it cannot be changed. The first element of an array takes it. -/
def assign (name : String) (t : ByteText) : Run Unit := do
  match (← get).arrayValue name with
  | .indexed elements => assignValue name (.indexed (Value.insertAt 0 t elements))
  | .keyed elements => assignValue name (.keyed (Value.insertKey "0" t elements))
  | _ => assignValue name (.text t)

/-- Let a variable be what it was before. -/
def restoreVariable (known : String × Option Variable) : Run Unit :=
  modify fun s =>
    let s := s.forget known.1
    match known.2 with
    | some v => { s with bindings := s.bindings ++ [(known.1, v)] }
    | none => s

/-- Let the innermost function have a variable for itself. -/
def makeLocal (name : String) : Run Unit := do
  let s ← get
  match s.frames with
  | [] => pure ()
  | frame :: others =>
    if (frame.lookup name).isSome then pure ()
    else
      set { s with frames := ((name, s.bindings.lookup name) :: frame) :: others }

end DesignAtlas.Shell
