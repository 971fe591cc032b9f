import DesignAtlas.Shell.Records.Machine

/-!
# Carrying out scripts for records

Expressions have values, and statements change the machine. Both are taken apart as they were put
together; only functions and loops go further, and both have bounds.

* `evaluate` finds the value of an expression.
* `execute` carries out a statement.
* `Script.run` carries out a script.
-/

namespace DesignAtlas.Shell.Records

open Work

/-- A value or a place that is handed to a function. -/
inductive Argument where
  /-- A value. -/
  | value (v : Value)
  /-- A place, which the function may use as a table. -/
  | place (n : Nat)

/-- What carries out the functions of a script. -/
abbrev Caller : Type :=
  Nat → List Argument → Work Value

/-- The number of rounds of a loop. -/
def loopLimit : Nat := 1000000000

/-- The number of functions that can be carried out inside one another. -/
def callLimit : Nat := 1000

/-! ### Texts and forms -/

/-- A place where a form fits a text. -/
def formOfValue (v : Value) : Work Regex := do
  match formOf (← textOf v).toList with
  | .ok r => return r
  | .error _ => wrong "regular expression compile failed (bad class -- [], [^] or [)"

/-- What is looked at in a text. -/
def subjectOf (text : ByteText) : Regex.Subject :=
  ⟨text.toList.toArray, false, true, false⟩

/-- Whether a text has a form somewhere. -/
def hasForm (r : Regex) (text : ByteText) : Bool :=
  (r.search (subjectOf text) 0).isSome

/-- A text in the place of a match. A lone sign stands for what has matched. -/
def replacement (matched : List Char) : List Char → List Char
  | '\\' :: '&' :: rest => '&' :: replacement matched rest
  | '\\' :: '\\' :: '&' :: rest => '\\' :: (matched ++ replacement matched rest)
  | '&' :: rest => matched ++ replacement matched rest
  | c :: rest => c :: replacement matched rest
  | [] => []

/-- A text with its first match replaced, or all of them, and their number. -/
def withReplacements (r : Regex) (other : List Char) (every : Bool) (text : ByteText) :
    ByteText × Nat :=
  let s := subjectOf text
  let rec go : (fuel : Nat) → (place : Nat) → (last : Option Nat) → (done : List (List Char)) →
      (count : Nat) → List (List Char) × Nat
    | 0, _, _, done, count => (done, count)
    | fuel + 1, place, last, done, count =>
      let rest (from' : Nat) : List Char := (s.text.extract from' s.text.size).toList
      match if count = 0 ∨ every then r.search s place else none with
      | none => (rest place :: done, count)
      | some m =>
        let before := (s.text.extract place m.first).toList
        let matched := (s.text.extract m.first m.last).toList
        if m.first = m.last then
          let next := (s.text.extract m.first (m.first + 1)).toList
          -- Nothing matches right behind another match.
          let (done, count) :=
            if last = some m.first then (before :: done, count)
            else (replacement [] other :: before :: done, count + 1)
          if s.text.size ≤ m.first then (done, count)
          else go fuel (m.first + 1) none (next :: done) count
        else go fuel m.last (some m.last) (replacement matched other :: before :: done) (count + 1)
  let (done, count) := go (s.text.size + 2) 0 none [] 0
  (String.ofList done.reverse.flatten, count)

/-- The part of a text from a place on, of a length. Both are rounded. -/
def partOf (text : ByteText) (start : Float) (length : Option Float) : ByteText :=
  let rounded (x : Float) : Int := truncated (x + (if x < 0 then -0.5 else 0.5))
  let first := rounded start
  let stop : Int := match length with
    | some n => first + rounded n
    | none => text.length + 1
  let from' := max first 1
  String.ofList ((text.toList.drop (from' - 1).toNat).take (stop - from').toNat)

/-- The place of a text in another one, counted from 1; 0 if it is not there. -/
def indexOf (text part : List Char) : Nat :=
  let rec go : List Char → Nat → Nat
    | [], n => if part.isEmpty then n else 0
    | c :: rest, n => if part.isPrefixOf (c :: rest) then n else go rest (n + 1)
  if text.isEmpty then 0 else go text 1

/-! ### Keys -/

/-- A key of a table: a number, or a text. -/
inductive Key where
  /-- A whole number. -/
  | number (n : Int)
  /-- A text. -/
  | text (t : ByteText)

/-- The text of a key. -/
def Key.toText : Key → ByteText
  | number n => toString n
  | text t => t

/-- The key that values stand for. -/
def keyOf (values : List Value) : Work Key := do
  match values with
  | [.number x] =>
    match wholeOf? x with
    | some n =>
      if -0x20000000000000 ≤ n ∧ n ≤ 0x20000000000000 then return .number n
      else return .text (formattedNumber (← get).textFormat x)
    | none => return .text (← textOf (.number x))
  | [v] => return .text (← textOf v)
  | values => return .text ((← sharedText "SUBSEP").intercalate (← values.mapM textOf))

/-- Look a key up in the table of a variable, and put it in if need be. -/
def lookUp (v : VariableRef) (key : Key) (fresh : Option Value) : Work (Option Value) :=
  onTable v fun t =>
    match key with
    | .number n => t.findNumber n fresh
    | .text k => t.find k fresh

/-! ### Places -/

/-- A place that can be changed. -/
inductive Target where
  /-- A variable. -/
  | variable (v : VariableRef)
  /-- A field. -/
  | field (n : Int)
  /-- An entry of a table. -/
  | element (v : VariableRef) (key : Key)

namespace Target

/-- The value of a place. -/
def value : Target → Work Value
  | .variable v => valueOf v
  | .field n => fieldAt n
  | .element v key => return (← lookUp v key (some .unset)).getD .unset

/-- Put a value into a place. -/
def put (t : Target) (value : Value) : Work Unit := do
  match t with
  | .variable v => setVariable v value
  | .field n => setField n value
  | .element v key =>
    let _ ← lookUp v key (some .unset)
    onTable v fun t => (t.put key.toText value, ())

end Target

/-! ### Functions that every script can call -/

/-- A number at random between 0 and 1. -/
def randomNumber : Work Float := do
  let m ← get
  let seed := (m.seed * 6364136223846793005 + 1442695040888963407) % Nat.pow 2 64
  set { m with seed := seed }
  return Float.ofNat (seed / Nat.pow 2 11) / Float.ofNat (Nat.pow 2 53)

/-- Carry out a function whose arguments are values. -/
def knownValue (f : KnownFunction) (values : List Value) : Work Value := do
  let number (i : Nat) : Float := ((values[i]?).getD .unset).toNumber
  let text (i : Nat) : Work ByteText := textOf ((values[i]?).getD .unset)
  match f with
  | .length =>
    match values with
    | [] => return .ofNat (← textOf (← get).record).length
    | _ => return .ofNat (← text 0).length
  | .substr => return .text (partOf (← text 0) (number 1) (values[2]?.map Value.toNumber))
  | .index => return .ofNat (indexOf (← text 0).toList (← text 1).toList)
  | .sprintf =>
    let format ← text 0
    let fuel := format.length + 1
    match filledFormat (← get).textFormat fuel format.toList (values.drop 1) 0 "" with
    | .ok t => return .text t
    | .error (.tooFew, _) =>
      wrong ("not enough arguments passed to sprintf(\"" ++ format ++ "\")")
    | .error (.unknown n, _) =>
      wrong ("improper conversion(number " ++ Nat.repr n ++ ") in sprintf(\"" ++ format ++ "\")")
  | .sin => return .number (Float.sin (number 0))
  | .cos => return .number (Float.cos (number 0))
  | .atan2 => return .number (Float.atan2 (number 0) (number 1))
  | .exp => return .number (Float.exp (number 0))
  | .log => return .number (Float.log (number 0))
  | .sqrt => return .number (Float.sqrt (number 0))
  | .int =>
    let x := number 0
    return .number (if x < 0 then Float.ceil x else Float.floor x)
  | .rand => return .number (← randomNumber)
  | .srand =>
    let old := (← get).start
    let start := (truncated (number 0)).toNat
    modify fun m => { m with start := start, seed := start }
    return .ofNat old
  | .tolower => return .text ((← text 0).map Char.toLower)
  | .toupper => return .text ((← text 0).map Char.toUpper)
  | .system =>
    flushOutput
    flushFiles
    return .ofNat (endingNumber (← runCommand (← text 0) none))
  | .close =>
    match ← closeAll (← text 0) with
    | some status => return .ofNat status
    | none => return .number (-1)
  | .fflush =>
    flushOutput
    flushFiles
    return .number 0
  | .systime => return .ofNat ((← perform get).disk.clock / 1000000000)
  | _ => wrong "a function is called with the wrong arguments"

/-- Put the parts of a text into a table. Gives their number. -/
def putParts (v : VariableRef) (parts : List (List Char)) : Work Value := do
  onTable v fun _ =>
    let table := parts.zipIdx.foldl (fun (t : Table Value) p =>
      (t.findNumber (p.2 + 1 : Nat) (some (Value.ofInput (String.ofList p.1)))).1) Table.empty
    (table, ())
  return .ofNat parts.length

/-- Read the next record from where an expression says, into a place. Gives 1, or 0 at the end, or
-1 if nothing can be read. -/
def takeRecord (target : Option Target) (found : Option (Option ByteText)) : Work Value := do
  match found with
  | none => return .number (-1)
  | some none => return .number 0
  | some (some record) =>
    match target with
    | some target => target.put (Value.ofInput record)
    | none => setRecord (.text record)
    return .number 1

/-! ### Expressions -/

mutual

/-- The value of an expression. -/
def evaluate (call : Caller) : Expr → Work Value
  | .number x => return .number x
  | .text t => return .text t
  | .form r => return .ofBool (hasForm r (← textOf (← get).record))
  | .variable v => valueOf v
  | .field n => do
    let place ← evaluate call n
    fieldAt (truncated place.toNumber)
  | .element v keys => do
    let key ← keyOf (← evaluateAll call keys)
    return (← lookUp v key (some .unset)).getD .unset
  | .assign place value => do
    let new ← evaluate call value
    let target ← targetOf call place
    target.put new
    return new
  | .update op place value => do
    let amount ← evaluate call value
    let target ← targetOf call place
    let old ← target.value
    let new := Value.number (op.apply old.toNumber amount.toNumber)
    target.put new
    return new
  | .count givesNew isUp place => do
    let target ← targetOf call place
    let old := (← target.value).toNumber
    let new := if isUp then old + 1 else old - 1
    target.put (.number new)
    return .number (if givesNew then new else old)
  | .choice c a b => do
    if (← evaluate call c).holds then evaluate call a else evaluate call b
  | .both a b => do
    if (← evaluate call a).holds then return .ofBool (← evaluate call b).holds
    else return .ofBool false
  | .either a b => do
    if (← evaluate call a).holds then return .ofBool true
    else return .ofBool (← evaluate call b).holds
  | .isNot a => do return .ofBool !(← evaluate call a).holds
  | .compare r a b => do
    let x ← evaluate call a
    let y ← evaluate call b
    return .ofBool (Value.compare (← get).textFormat r x y)
  | .fits a b => do
    let text ← textOf (← evaluate call a)
    return .ofBool (hasForm (← formOfExpr call b) text)
  | .within keys v => do
    let key ← keyOf (← evaluateAll call keys)
    return .ofBool (← lookUp v key none).isSome
  | .compute op a b => do
    let x ← evaluate call a
    let y ← evaluate call b
    return .number (op.apply x.toNumber y.toNumber)
  | .negate a => do return .number (-(← evaluate call a).toNumber)
  | .plus a => do return .number (← evaluate call a).toNumber
  | .joined a b => do
    let s ← textOf (← evaluate call a)
    let t ← textOf (← evaluate call b)
    return .text (s ++ t)
  | .group a => evaluate call a
  | .several items => do
    return .text ((← sharedText "SUBSEP").intercalate (← (← evaluateAll call items).mapM textOf))
  | .call f arguments => do
    call f (← argumentsOf call arguments)
  | .known f arguments => evaluateKnown call f arguments
  | .nextRecord place => do
    let target ← targetHere call place
    takeRecord target (some (← nextMainRecord fileLimit))
  | .nextOfFile place file => do
    let name ← textOf (← evaluate call file)
    let target ← targetHere call place
    takeRecord target (← nextOpenRecord name false)
  | .nextOfCommand place command => do
    let name ← textOf (← evaluate call command)
    let target ← targetHere call place
    let found ← nextOpenRecord name true
    if found.join.isSome then
      modify fun m => m.withShared "NR" (.number ((m.shared "NR").toNumber + 1))
    takeRecord target found
termination_by e => (sizeOf e, 0)

/-- The values of expressions. -/
def evaluateAll (call : Caller) : List Expr → Work (List Value)
  | [] => return []
  | e :: rest => do
    let v ← evaluate call e
    return v :: (← evaluateAll call rest)
termination_by es => (sizeOf es, 0)

/-- What is handed to a function. -/
def argumentsOf (call : Caller) : List Expr → Work (List Argument)
  | [] => return []
  | e :: rest => do
    let argument ← argumentOf call e
    return argument :: (← argumentsOf call rest)
termination_by es => (sizeOf es, 0)

/-- A value, or the place of a variable that may be a table. -/
def argumentOf (call : Caller) : Expr → Work Argument
  | .variable v => do
    let place ← cellOf v
    match (← get).cells[place]? with
    | some (.table _) => return .place place
    | some (.link _) => return .place place
    | some (.value .unset) => return .place place
    | _ => return .value (← valueOf v)
  | e => do return .value (← evaluate call e)
termination_by e => (sizeOf e, 1)

/-- The form that an expression stands for. -/
def formOfExpr (call : Caller) : Expr → Work Regex
  | .form r => return r
  | .group a => formOfExpr call a
  | e => do formOfValue (← evaluate call e)
termination_by e => (sizeOf e, 1)

/-- The place that an expression stands for. -/
def targetOf (call : Caller) : Expr → Work Target
  | .variable v => return .variable v
  | .field n => do
    let place ← evaluate call n
    return .field (truncated place.toNumber)
  | .element v keys => do return .element v (← keyOf (← evaluateAll call keys))
  | .group a => targetOf call a
  | _ => wrong "a value is put into what is no place"
termination_by e => (sizeOf e, 1)

/-- The place that may stand behind a word that reads. -/
def targetHere (call : Caller) : List Expr → Work (Option Target)
  | [] => return none
  | e :: _ => do return some (← targetOf call e)
termination_by es => (sizeOf es, 0)

/-- The value of a function that every script can call. -/
def evaluateKnown (call : Caller) : KnownFunction → List Expr → Work Value
  | .split, [text, .variable v] => do
    let t ← textOf (← evaluate call text)
    putParts v (partsOf (← separatorOf (← sharedText "FS")) false t.toList)
  | .split, [text, .variable v, separator] => do
    let t ← textOf (← evaluate call text)
    let s ← separatorHere call separator
    putParts v (partsOf s false t.toList)
  | .place, [text, form] => do
    let t ← textOf (← evaluate call text)
    let r ← formOfExpr call form
    let (start, length) : Value × Value := match r.search (subjectOf t) 0 with
      | some m => (.ofNat (m.first + 1), .ofNat (m.last - m.first))
      | none => (.number 0, .number (-1))
    modify fun m => (m.withShared "RSTART" start).withShared "RLENGTH" length
    return start
  | .sub, form :: other :: place => replaceIn call false form other place
  | .gsub, form :: other :: place => replaceIn call true form other place
  | .length, [.variable v] => do
    let place ← cellOf v
    let isTable ← match (← get).cells[place]? with
      | some (.table _) => pure true
      | some (.link _) => pure true
      | _ => pure false
    if isTable then return .ofNat (← onTable v fun t => (t, t.size))
    else knownValue .length [← valueOf v]
  | f, arguments => do knownValue f (← evaluateAll call arguments)
termination_by _ es => (sizeOf es, 1)

/-- What parts a text, as an expression says. -/
def separatorHere (call : Caller) : Expr → Work Separator
  | .form r => return if r matches .empty then .nothing else .form r
  | e => do separatorOf (← textOf (← evaluate call e))
termination_by e => (sizeOf e, 1)

/-- Replace what has a form, in a place or in the record. Gives the number of replacements. -/
def replaceIn (call : Caller) (every : Bool) (form other : Expr) (place : List Expr) :
    Work Value := do
  let r ← formOfExpr call form
  let t ← textOf (← evaluate call other)
  let target ← targetOrRecord call place
  let old ← textOf (← target.value)
  let (new, count) := withReplacements r t.toList every old
  if count ≠ 0 then target.put (.text new)
  return .ofNat count
termination_by (1 + sizeOf form + sizeOf other + sizeOf place, 0)

/-- The place that is given, or the record. -/
def targetOrRecord (call : Caller) : List Expr → Work Target
  | [] => return .field 0
  | e :: _ => targetOf call e
termination_by es => (sizeOf es, 0)

end

/-! ### Statements -/

/-- Repeat work as long as a condition holds. -/
def repeatWhile (condition : Work Bool) (body step : Work Unit) : (rounds : Nat) → Work Unit
  | 0 => perform (throw .exhausted)
  | rounds + 1 => do
    if ← condition then
      let goesOn ← tryCatch (do body; return true) fun jump =>
        match jump with
        | .breakOut => return false
        | .goOn => return true
        | jump => throw jump
      if goesOn then
        step
        repeatWhile condition body step rounds
      else return
    else return

/-- Write values with gaps between them. -/
def printedText (values : List Value) : Work ByteText := do
  let format := ((← get).shared "OFMT").toText "%.6g"
  let gap ← sharedText "OFS"
  let stop ← sharedText "ORS"
  let texts ← match values with
    | [] => pure [← textOf (← get).record]
    | values => values.mapM fun v =>
      match v with
      | .number x => pure (numberText format x)
      | v => textOf v
  return gap.intercalate texts ++ stop

/-- Fill in a format for output. -/
def filledText (values : List Value) : Work ByteText := do
  let format ← textOf (values.headD .unset)
  match filledFormat (← get).textFormat (format.length + 1) format.toList (values.drop 1) 0 "" with
  | .ok t => return t
  | .error (fault, done) =>
    putOut done
    match fault with
    | .tooFew => wrong ("not enough arguments passed to printf(\"" ++ format ++ "\")")
    | .unknown n =>
      wrong ("improper conversion(number " ++ Nat.repr n ++ ") in printf(\"" ++ format ++ "\")")

/-- Write a text where a statement says. -/
def putWhere (outlet : Outlet) (name text : ByteText) : Work Unit :=
  if outlet matches .standard then putOut text else putInto outlet name text

/-- Carry out work for each of some keys that are still in a table. -/
def forEachKey (key : VariableRef) (body : Work Unit) : List ByteText → Work Unit
  | [] => return
  | k :: rest => do
    setVariable key (.text k)
    let goesOn ← tryCatch (do body; return true) fun jump =>
      match jump with
      | .breakOut => return false
      | .goOn => return true
      | jump => throw jump
    if goesOn then forEachKey key body rest

mutual

/-- Carry out a statement. -/
def execute (call : Caller) : Statement → Work Unit
  | .expression e => do let _ ← evaluate call e
  | .print items outlet target => do
    let values ← evaluateAll call items
    let name ← if outlet matches .standard then pure "" else textOf (← evaluate call target)
    putWhere outlet name (← printedText values)
  | .printf items outlet target => do
    let values ← evaluateAll call items
    let name ← if outlet matches .standard then pure "" else textOf (← evaluate call target)
    putWhere outlet name (← filledText values)
  | .choice c a b => do
    if (← evaluate call c).holds then execute call a else execute call b
  | .whileDo c body =>
    repeatWhile (do return (← evaluate call c).holds) (execute call body) (return) loopLimit
  | .doWhile body c => do
    let goesOn ← tryCatch (do execute call body; return true) fun jump =>
      match jump with
      | .breakOut => return false
      | .goOn => return true
      | jump => throw jump
    if goesOn then
      repeatWhile (do return (← evaluate call c).holds) (execute call body) (return) loopLimit
  | .forDo start c step body => do
    execute call start
    repeatWhile (do return (← evaluate call c).holds) (execute call body) (execute call step)
      loopLimit
  | .forKeys key table body => do
    let keys ← onTable table fun t => (t.withTexts, t.keys)
    forEachKey key (execute call body) keys
  | .block items => executeAll call items
  | .next => throw .next
  | .nextFile => throw .nextFile
  | .exit [] => throw .exit
  | .exit (e :: _) => do
    let status := truncated (← evaluate call e).toNumber
    modify fun m => { m with status := (status % 256).toNat }
    throw .exit
  | .returnWith [] => throw (.returned .unset)
  | .returnWith (e :: _) => do throw (.returned (← evaluate call e))
  | .breakOut => throw .breakOut
  | .goOn => throw .goOn
  | .delete v keys => do
    let key ← keyOf (← evaluateAll call keys)
    onTable v fun t => (t.erase key.toText, ())
  | .deleteAll v => onTable v fun _ => (.empty, ())

/-- Carry out statements one after the other. -/
def executeAll (call : Caller) : List Statement → Work Unit
  | [] => return
  | s :: rest => do
    execute call s
    executeAll call rest

end

/-- Carry out a function of a script. -/
def callFunction (functions : Array ScriptFunction) : (depth : Nat) → Caller
  | 0, _, _ => wrong "function call nesting too deep (infinite recursion?)"
  | depth + 1, i, arguments => do
    match functions[i]? with
    | none => return .unset
    | some f =>
      let m ← get
      let base := m.cells.size
      let own := (List.range f.variableCount).map fun n =>
        match arguments[n]? with
        | some (.value v) => Cell.value v
        | some (.place n) => .link n
        | none => .value .unset
      set { m with cells := m.cells ++ own.toArray, base := base }
      let v ← tryCatch (do execute (callFunction functions depth) f.body; return .unset) fun jump =>
        match jump with
        | .returned v => return v
        | jump => throw jump
      modify fun after =>
        { after with cells := after.cells.extract 0 base, base := m.base }
      return v

/-! ### Scripts -/

/-- Whether a rule with a number is about the record. -/
def isAbout (call : Caller) (number : Nat) : RecordPattern → Work Bool
  | .every => return true
  | .holds e => do return (← evaluate call e).holds
  | .range first last => do
    let isActive ←
      if (← get).active.contains number then pure true
      else do pure (← evaluate call first).holds
    if isActive then
      let ends := (← evaluate call last).holds
      modify fun m =>
        let others := m.active.filter (· != number)
        { m with active := if ends then others else number :: others }
    return isActive

/-- Carry out the rules for a record. -/
def applyRules (call : Caller) : (number : Nat) → List Rule → Work Unit
  | _, [] => return
  | number, rule :: rest => do
    if ← isAbout call number rule.pattern then execute call rule.action
    applyRules call (number + 1) rest

/-- Carry out the rules for all records. -/
def throughRecords (call : Caller) (rules : List Rule) (size : Nat) : (rounds : Nat) → Work Unit
  | 0 => perform (throw .exhausted)
  | rounds + 1 => do
    match ← nextMainRecord fileLimit with
    | none => return
    | some record =>
      setRecord (.text record)
      tryCatch (applyRules call 0 rules) fun jump =>
        match jump with
        | .next => modify fun m => { m with cells := m.cells.extract 0 size, base := 0 }
        | .nextFile =>
          modify fun m => { m with cells := m.cells.extract 0 size, base := 0, main := none }
        | jump => throw jump
      throughRecords call rules size rounds

/-- Carry out a script, to its end. -/
def Script.perform (script : Script) : Work Unit := do
  let call := callFunction script.functions callLimit
  let size := (← get).cells.size
  let untilExit (work : Work Unit) : Work Bool :=
    tryCatch (do work; return false) fun jump =>
      match jump with
      | .exit => do
        modify fun m => { m with cells := m.cells.extract 0 size, base := 0 }
        return true
      | jump => throw jump
  let isOver ← untilExit (executeAll call script.start)
  if !isOver && !(script.rules.isEmpty && script.finish.isEmpty) then
    let _ ← untilExit (throughRecords call script.rules size loopLimit)
  let _ ← untilExit (executeAll call script.finish)

end DesignAtlas.Shell.Records
