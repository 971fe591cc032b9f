import DesignAtlas.Shell.Records.Form
import DesignAtlas.Shell.Records.Table
import DesignAtlas.Shell.Records.Value
import DesignAtlas.Shell.Tool.Basic

/-!
# Machines for scripts

What a script works on while it goes through its records: variables, the record and its fields, and
the files and commands that are open.

* `Work` is work on a machine. It can end early, and `Jump` says why.
* `Machine.setRecord` and `setField` change the record.
* `nextMainRecord` reads the next record of the input.
-/

namespace DesignAtlas.Shell.Records

/-- What stands at the place of a variable. -/
inductive Cell where
  /-- A value. -/
  | value (v : Value)
  /-- A table. -/
  | table (t : Table Value)
  /-- What stands at another place, as long as it is used as a table. -/
  | link (place : Nat)

/-- A file or command that is written to. -/
structure OpenOutput where
  /-- The name of the file, or the command. -/
  name : ByteText
  /-- Whether it is a command. -/
  isCommand : Bool
  /-- What waits to be written. -/
  waiting : ByteText

/-- A file or command that is read from. -/
structure OpenInput where
  /-- The name of the file, or the command. -/
  name : ByteText
  /-- The status of the command. -/
  status : Nat
  /-- What is left to be read. -/
  left : List Char

/-- The state of a script. -/
structure Machine where
  /-- How the tool was called. -/
  call : Call
  /-- The names of the variables that everything shares. -/
  names : Array String
  /-- What stands at the places of variables. -/
  cells : Array Cell
  /-- The place of the first variable of the function that is carried out. -/
  base : Nat
  /-- The record. -/
  record : Value
  /-- The fields. -/
  fields : Array Value
  /-- The number of the next argument. -/
  argument : Nat
  /-- Whether an argument was a file. -/
  hasFile : Bool
  /-- What is left of the file that is read. -/
  main : Option (List Char)
  /-- Whether the input is at its end. -/
  isDone : Bool
  /-- What is written to. -/
  outputs : List OpenOutput
  /-- What is read from. -/
  inputs : List OpenInput
  /-- What waits to be written to the output. -/
  waiting : ByteText
  /-- The numbers of the rules whose ranges have started. -/
  active : List Nat
  /-- The status at the end. -/
  status : Nat
  /-- What the next number at random comes from. -/
  seed : Nat
  /-- What the numbers at random were started with. -/
  start : Nat

/-- Why a script does not go on with the next statement. -/
inductive Jump where
  /-- The loop ends. -/
  | breakOut
  /-- The loop goes on with its next round. -/
  | goOn
  /-- The work on the record ends. -/
  | next
  /-- The work on the file ends. -/
  | nextFile
  /-- The script ends. -/
  | exit
  /-- Nothing more is done. -/
  | stop
  /-- The function ends. -/
  | returned (v : Value)
  /-- Something goes wrong. -/
  | fault (message : ByteText)

/-- Work on a machine. -/
abbrev Work (α : Type) : Type :=
  ExceptT Jump (StateT Machine Run) α

namespace Work

/-- Do what a tool does. -/
def perform {α : Type} (run : Run α) : Work α :=
  ExceptT.lift (StateT.lift run)

/-- Say that something goes wrong. -/
def wrong {α : Type} (message : ByteText) : Work α :=
  throw (.fault message)

end Work

/-- Say that a file cannot be used, and do nothing more. -/
def refuseFile {α : Type} (message : ByteText) : Work α := do
  Work.perform ((← get).call.say message)
  modify fun m => { m with status := 2 }
  throw .stop

open Work

/-! ### Variables -/

/-- The places of the variables that mean something to every script. -/
def placeOf (name : String) : Nat :=
  (knownNames.idxOf? name).getD 0

/-- The place of a variable. -/
def cellOf (v : VariableRef) : Work Nat := do
  match v with
  | .shared n => return n
  | .own n => return (← get).base + n

/-- The value of a shared variable. -/
def Machine.shared (m : Machine) (name : String) : Value :=
  match m.cells[placeOf name]? with
  | some (.value v) => v
  | _ => .unset

/-- Set a shared variable. -/
def Machine.withShared (m : Machine) (name : String) (v : Value) : Machine :=
  { m with cells := m.cells.setIfInBounds (placeOf name) (.value v) }

/-- How numbers are written that become texts. -/
def Machine.textFormat (m : Machine) : ByteText :=
  (m.shared "CONVFMT").toText "%.6g"

/-- The text of a value. -/
def textOf (v : Value) : Work ByteText :=
  match v with
  | .text t => return t
  | .numeral t _ => return t
  | .unset => return ""
  | .number x => return numberText (← get).textFormat x

/-- The text of a shared variable. -/
def sharedText (name : String) : Work ByteText := do
  textOf ((← get).shared name)

/-- The place of the table that a place leads to. A place without a value becomes one. -/
def tablePlace : (fuel : Nat) → (place : Nat) → Work Nat
  | 0, place => return place
  | fuel + 1, place => do
    let m ← get
    match m.cells[place]? with
    | some (.link other) => tablePlace fuel other
    | some (.value .unset) =>
      set { m with cells := m.cells.setIfInBounds place (.table .empty) }
      return place
    | some (.value _) => wrong "type error: a variable is used as a table"
    | _ => return place

/-- Work on the table of a variable. -/
def onTable {α : Type} (v : VariableRef) (work : Table Value → Table Value × α) : Work α := do
  let m ← get
  let place ← tablePlace (m.cells.size + 1) (← cellOf v)
  let m ← get
  match m.cells[place]? with
  | some (.table t) =>
    -- The table is taken out while it is changed, so that nothing is copied.
    let cells := m.cells.setIfInBounds place (.value .unset)
    let (t, a) := work t
    set { m with cells := cells.setIfInBounds place (.table t) }
    return a
  | _ => wrong "type error: a variable is used as a table"

/-! ### Fields -/

/-- The parts of a text between single characters. -/
def splitAtChars (isStop : Char → Bool) (text : List Char) : List (List Char) :=
  let (parts, last) := text.foldr (fun c (state : List (List Char) × List Char) =>
    if isStop c then (state.2 :: state.1, []) else (state.1, c :: state.2)) ([], [])
  last :: parts

/-- The parts of a text between matches that are not empty. -/
def splitAtForm (r : Regex) (text : List Char) : List (List Char) :=
  let s : Regex.Subject := ⟨text.toArray, false, true, false⟩
  let rec go : (fuel : Nat) → (start place : Nat) → List (List Char)
    | 0, start, _ => [(s.text.extract start s.text.size).toList]
    | fuel + 1, start, place =>
      match r.search s place with
      | none => [(s.text.extract start s.text.size).toList]
      | some m =>
        if m.first = m.last then
          if m.first < s.text.size then go fuel start (m.first + 1)
          else [(s.text.extract start s.text.size).toList]
        else (s.text.extract start m.first).toList :: go fuel m.last m.last
  go (text.length + 1) 0 0

/-- What parts a text. -/
inductive Separator where
  /-- Blanks and ends of lines. -/
  | blanks
  /-- Nothing: every character is a part. -/
  | nothing
  /-- A character. -/
  | char (c : Char)
  /-- A form. -/
  | form (r : Regex)

/-- The separator that a text stands for. -/
def separatorOf (text : ByteText) : Work Separator := do
  match text.toList with
  | [] => return .nothing
  | [' '] => return .blanks
  | [c] => return .char c
  | chars =>
    match formOf chars with
    | .ok r => return .form r
    | .error _ => wrong ("regular expression compile failed (bad class -- [], [^] or [)")

/-- The parts of a text. With paragraphs, ends of lines part it as well. -/
def partsOf (s : Separator) (isParagraph : Bool) (text : List Char) : List (List Char) :=
  if text.isEmpty then []
  else
    match s with
    | .blanks =>
      (splitAtChars (fun c => c == ' ' || c == '\t' || c == '\n') text).filter (!·.isEmpty)
    | .nothing => text.map fun c => [c]
    | .char c => splitAtChars (fun d => d == c || (isParagraph && d == '\n')) text
    | .form r =>
      splitAtForm (if isParagraph then .either r (.within false [('\n', '\n')]) else r) text

/-- Put a record in the place of the former one. -/
def setRecord (v : Value) : Work Unit := do
  let text ← textOf v
  let s ← separatorOf (← sharedText "FS")
  let isParagraph := (← sharedText "RS").isEmpty
  let parts := (partsOf s isParagraph text.toList).map fun p => Value.ofInput (String.ofList p)
  modify fun m => { m with record := v, fields := parts.toArray }

/-- Put the record together from its fields. -/
def joinRecord : Work Unit := do
  let gap ← sharedText "OFS"
  let parts ← (← get).fields.toList.mapM textOf
  modify fun m => { m with record := .text (gap.intercalate parts) }

/-- Change the number of fields. -/
def setFieldCount (count : Int) : Work Unit := do
  if count < 0 then wrong "negative value assigned to NF"
  let n := count.toNat
  modify fun m =>
    let fields := m.fields.extract 0 n
    { m with fields := fields ++ (Array.replicate (n - fields.size) Value.unset) }
  joinRecord

/-- The value of a field. -/
def fieldAt (n : Int) : Work Value := do
  let m ← get
  if n < 0 then wrong ("negative field index $" ++ toString n)
  else if n = 0 then
    match m.record with
    | .text t => return Value.ofInput t
    | v => return v
  else return (m.fields[n.toNat - 1]?).getD .unset

/-- Change a field. -/
def setField (n : Int) (v : Value) : Work Unit := do
  if n < 0 then wrong ("negative field index $" ++ toString n)
  else if n = 0 then setRecord v
  else
    let i := n.toNat - 1
    modify fun m =>
      let fields := m.fields ++ Array.replicate (i + 1 - m.fields.size) Value.unset
      { m with fields := fields.setIfInBounds i v }
    joinRecord

/-- The value of a variable. -/
def valueOf (v : VariableRef) : Work Value := do
  if v = .shared (placeOf "NF") then return .ofNat (← get).fields.size
  match (← get).cells[← cellOf v]? with
  | some (.value value) => return value
  | some (.table _) => wrong "type error: a table is used as a variable"
  | _ => return .unset

/-- Set a variable. -/
def setVariable (v : VariableRef) (value : Value) : Work Unit := do
  if v = .shared (placeOf "NF") then setFieldCount (truncated value.toNumber)
  else
    let place ← cellOf v
    match (← get).cells[place]? with
    | some (.table _) => wrong "type error: a table is used as a variable"
    | _ => modify fun m => { m with cells := m.cells.setIfInBounds place (.value value) }

/-! ### Output -/

/-- The number of bytes that wait before they are written. -/
def waitLimit : Nat := 4096

/-- Write what waits for the output. -/
def flushOutput : Work Unit := do
  let m ← get
  if !m.waiting.isEmpty then
    set { m with waiting := "" }
    perform (write 1 m.waiting)

/-- Write to the output, at some time. -/
def putOut (text : ByteText) : Work Unit := do
  modify fun m => { m with waiting := m.waiting ++ text }
  if waitLimit ≤ (← get).waiting.utf8ByteSize then flushOutput

/-- Run a command. It reads a text, or what the script reads. Gives its ending. -/
def runCommand (command : ByteText) (input : Option ByteText) : Work Ending := do
  let run := (← get).call.run
  let words : List ByteText := ["/bin/sh", "-c", command]
  let before := (← perform get).descriptors.lookup 0
  match input with
  | some text => perform do
      let (s, i) := (← get).withStream (.source text.toBytes)
      set (s.lead 0 i)
  | none => pure ()
  let ending ← perform (run words)
  if input.isSome then
    perform (modify fun s => match before with
      | some stream => s.lead 0 stream
      | none => s.close 0)
  return (ending.toOption).getD (.exited 127)

/-- The number that an ending is given as. -/
def endingNumber : Ending → Nat
  | .exited status => status
  | .killed signal => 256 + signal

/-- Write what waits for a file, or run the command that it waits for. -/
def finishOutput (o : OpenOutput) : Work Nat := do
  if o.isCommand then return endingNumber (← runCommand o.name (some o.waiting))
  else
    if !o.waiting.isEmpty then
      let _ ← perform (putContent o.name true o.waiting)
    return 0

/-- Write what waits for files. -/
def flushFiles : Work Unit := do
  for o in (← get).outputs do
    if !o.isCommand && !o.waiting.isEmpty then
      let _ ← perform (putContent o.name true o.waiting)
  modify fun m =>
    { m with outputs := m.outputs.map fun o => if o.isCommand then o else { o with waiting := "" } }

/-- Write to a file or command. It is opened if need be. -/
def putInto (outlet : Outlet) (name : ByteText) (text : ByteText) : Work Unit := do
  let isCommand := outlet matches .command
  if !isCommand && (name == "/dev/stdout" || name == "-") then putOut text
  else if !isCommand && name == "/dev/stderr" then perform (write 2 text)
  else
    if !(← get).outputs.any fun o => o.name == name && o.isCommand == isCommand then
      if isCommand then flushOutput
      else
        match ← perform (putContent name (outlet matches .fileEnd) "") with
        | .ok () => pure ()
        | .error fault =>
          let message := "cannot open \"" ++ name ++ "\" for output (" ++ fault.reason ++ ")"
          refuseFile message
      modify fun m => { m with outputs := m.outputs ++ [⟨name, isCommand, ""⟩] }
    modify fun m =>
      { m with outputs := m.outputs.map fun o =>
          if o.name == name && o.isCommand == isCommand then
            { o with waiting := o.waiting ++ text }
          else o }

/-- Close all that has a name. Gives the status of the last command, or nothing if nothing was
open. -/
def closeAll (name : ByteText) : Work (Option Nat) := do
  let m ← get
  let (closing, others) := m.outputs.partition (·.name == name)
  let (read, left) := m.inputs.partition (·.name == name)
  set { m with outputs := others, inputs := left }
  let mut status := read.getLast?.map (·.status)
  for o in closing do
    if o.isCommand then flushOutput
    status := some (← finishOutput o)
  return status

/-- Write all that waits, and run the commands that are written to. -/
def closeEverything : Work Unit := do
  let outputs := (← get).outputs
  modify fun m => { m with outputs := [], inputs := [] }
  for o in outputs do
    let _ ← finishOutput o
  flushOutput

/-! ### Input -/

/-- The first record of a text and the text behind it. -/
def recordAt? (mark : ByteText) (text : List Char) : Work (Option (List Char × List Char)) := do
  match mark.toList, text with
  | _, [] => return none
  | [c], text =>
    let record := text.takeWhile (· != c)
    return some (record, text.drop (record.length + 1))
  | [], text =>
    -- Records are paragraphs.
    let text := text.dropWhile (· == '\n')
    let rec paragraph : List Char → List Char → List Char × List Char
      | [], taken => (taken.reverse, [])
      | '\n' :: '\n' :: rest, taken => (taken.reverse, rest.dropWhile (· == '\n'))
      | ['\n'], taken => (taken.reverse, [])
      | c :: rest, taken => paragraph rest (c :: taken)
    return if text.isEmpty then none else some (paragraph text [])
  | mark, text =>
    match formOf mark with
    | .error _ => wrong "regular expression compile failed (bad class -- [], [^] or [)"
    | .ok r =>
      let s : Regex.Subject := ⟨text.toArray, false, true, false⟩
      match r.search s 0 with
      | some m =>
        if m.first < m.last then return some (text.take m.first, text.drop m.last)
        else return some (text, [])
      | none =>
        -- The end of the last line does not belong to the record.
        return some (if text.getLast? = some '\n' then text.dropLast else text, [])

/-- A text from outside with what backslashes stand for. -/
def unescapedText : (fuel : Nat) → List Char → List Char
  | 0, text => text
  | fuel + 1, text =>
    match text with
    | '\\' :: '\\' :: rest => '\\' :: unescapedText fuel rest
    | '\\' :: '/' :: rest => '\\' :: '/' :: unescapedText fuel rest
    | '\\' :: rest =>
      match escapeAt? rest with
      | some (c, behind) => c :: unescapedText fuel behind
      | none => '\\' :: unescapedText fuel rest
    | c :: rest => c :: unescapedText fuel rest
    | [] => []

/-- Carry out an assignment that stands among the arguments. Whether it is one is given. -/
def assignArgument (argument : ByteText) : Work Bool := do
  let name := argument.toList.takeWhile fun c => c.isAlphanum || c == '_'
  if !(name.head?.any fun c => c.isAlpha || c == '_') ||
      argument.toList[name.length]? != some '=' then
    return false
  let text := argument.toList.drop (name.length + 1)
  let value := Value.ofInput (String.ofList (unescapedText (text.length + 1) text))
  match (← get).names.idxOf? (String.ofList name) with
  | some i => setVariable (.shared i) value
  | none => pure ()
  return true

/-- Open the next file of the input. -/
def openNext : (fuel : Nat) → Work Bool
  | 0 => return false
  | fuel + 1 => do
    let m ← get
    let count := (truncated (m.shared "ARGC").toNumber).toNat
    if m.isDone then return false
    else if count ≤ m.argument then
      if m.hasFile then
        set { m with isDone := true }
        return false
      else
        let content ← perform (readAll 0)
        modify fun m =>
          { m.withShared "FILENAME" (.text "-") with
            hasFile := true, main := some ((content.toOption.getD "").toList) }
        return true
    else
      set { m with argument := m.argument + 1 }
      let value ← onTable (.shared (placeOf "ARGV")) fun t =>
        t.find (toString m.argument) none
      let name ← textOf (value.getD .unset)
      if name.isEmpty then openNext fuel
      else if ← assignArgument name then openNext fuel
      else
        let name' := if name = "/dev/stdin" then "-" else name
        match ← perform (contentOf name') with
        | .error .directory => refuseFile "read error (Is a directory)"
        | .error fault => refuseFile ("cannot open \"" ++ name ++ "\" (" ++ fault.reason ++ ")")
        | .ok content =>
          modify fun m =>
            { (m.withShared "FILENAME" (.text name)).withShared "FNR" (.number 0) with
              hasFile := true
              main := some content.toList }
          return true

/-- Read the next record of the input. -/
def nextMainRecord : (fuel : Nat) → Work (Option ByteText)
  | 0 => return none
  | fuel + 1 => do
    match (← get).main with
    | none => if ← openNext 100000 then nextMainRecord fuel else return none
    | some text =>
      match ← recordAt? (← sharedText "RS") text with
      | some (record, rest) =>
        modify fun m =>
          let one (name : String) : Value := .number ((m.shared name).toNumber + 1)
          let nr := one "NR"
          let fnr := one "FNR"
          { (m.withShared "NR" nr).withShared "FNR" fnr with main := some rest }
        return some (String.ofList record)
      | none =>
        modify fun m => { m with main := none }
        nextMainRecord fuel

/-- The number of files that the input can consist of. -/
def fileLimit : Nat := 1000000

/-- Read the next record of a file or command that is open, or that is opened. Nothing is given if
it cannot be opened. -/
def nextOpenRecord (name : ByteText) (isCommand : Bool) : Work (Option (Option ByteText)) := do
  let take (known : OpenInput) : Work (Option (Option ByteText)) := do
    match ← recordAt? (← sharedText "RS") known.left with
    | some (record, rest) =>
      modify fun m =>
        { m with inputs := m.inputs.map fun i =>
            if i.name == name then { i with left := rest } else i }
      return some (some (String.ofList record))
    | none =>
      modify fun m =>
        { m with inputs := m.inputs.map fun i =>
            if i.name == name then { i with left := [] } else i }
      return some none
  match (← get).inputs.find? (·.name == name) with
  | some known => take known
  | none =>
    if isCommand then
      flushOutput
      flushFiles
      let run := (← get).call.run
      let (ending, text) ← perform (captured (run ["/bin/sh", "-c", name]))
      let status := (ending.toOption.map endingNumber).getD 127
      let known : OpenInput := ⟨name, status, text.toList⟩
      modify fun m => { m with inputs := m.inputs ++ [known] }
      take known
    else
      match ← perform (contentOf (if name = "/dev/stdin" then "-" else name)) with
      | .error _ => return none
      | .ok content =>
        let known : OpenInput := ⟨name, 0, content.toList⟩
        modify fun m => { m with inputs := m.inputs ++ [known] }
        take known

end DesignAtlas.Shell.Records
