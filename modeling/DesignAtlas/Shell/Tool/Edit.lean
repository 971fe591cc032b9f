import DesignAtlas.Number.Total
import DesignAtlas.Shell.Quoting
import DesignAtlas.Shell.Tool.EditScript

/-!
# Editing lines

The tool that carries a script out for every line of files. It works on a text, which is the line at
first, and keeps another text besides.

* `Editor` is what it works on.
* `editLines` carries scripts out.
-/

namespace DesignAtlas.Shell.Tools

/-- A text that is worked on. -/
structure EditText where
  /-- The characters. -/
  chars : List Char
  /-- Whether the end of a line follows. -/
  isEnded : Bool

/-- What has become of a range of lines. -/
inductive RangeState where
  /-- It has not started. -/
  | waiting
  /-- It has started. It can end with a line of a number. -/
  | active (last : Option Nat)
  /-- It has ended. -/
  | finished
  deriving DecidableEq, Repr

/-- The state that a range is in before the first line. -/
def RangeState.initial : LineStart → RangeState
  | .line 0 => .active none
  | _ => .waiting

/-- What is written behind a line. -/
inductive Appendix where
  /-- A text. -/
  | text (chars : List Char)
  /-- The content of a file. -/
  | file (path : ByteText)

/-- What scripts work on. -/
structure Editor where
  /-- The text. -/
  text : EditText
  /-- The kept text. -/
  kept : EditText
  /-- The number of the line. -/
  line : Nat
  /-- Whether something was replaced since the line was read. -/
  hasReplaced : Bool
  /-- What is written behind the line, in reverse order. -/
  appendices : List Appendix
  /-- What has become of ranges, by the numbers of the commands. -/
  ranges : List (Nat × RangeState)
  /-- The pattern that was used last. -/
  lastPattern : Option Regex
  /-- The lines of the file that are left. -/
  lines : List (List Char)
  /-- The name of the file. -/
  file : ByteText
  /-- The files that are left. -/
  files : List ByteText
  /-- The files from which single lines are read, with the lines that are left. -/
  sources : List (ByteText × List (List Char))
  /-- The files whose last line has no end yet. An empty name stands for the output. -/
  unfinished : List ByteText
  /-- The output that has not been written yet. -/
  output : ByteText
  /-- The text that takes the place of a file. -/
  edited : Option ByteText
  /-- The status so far. -/
  status : Nat

/-- How scripts are carried out. -/
structure EditSettings where
  /-- The call of the tool. -/
  call : Call
  /-- The commands. -/
  steps : List EditStep
  /-- Whether lines are only shown where a command says so. -/
  isQuiet : Bool
  /-- The character that ends lines. -/
  lineEnd : Char
  /-- Whether every file has lines of its own. -/
  isSeparate : Bool
  /-- Whether files are changed. What is behind the name of a copy is given. -/
  inPlace : Option ByteText
  /-- The width of lines that are shown with escapes. -/
  width : Nat

/-- What happens behind a command. -/
inductive EditFlow where
  /-- The script is at its end. -/
  | done
  /-- The next line follows, and nothing is shown. -/
  | nextLine
  /-- The script starts again with the same text. -/
  | again
  /-- The tool ends with a status. -/
  | quit (status : Nat)

/-- Work of an editor. -/
abbrev Editing (α : Type) : Type :=
  StateT Editor Run α

namespace Editor

/-- Work of a shell in the work of an editor. -/
def session {α : Type} (work : Run α) : Editing α :=
  StateT.lift work

/-! ### Writing -/

/-- The number of bytes that are written at once. -/
def outputLimit : Nat := 4096

/-- Write the output that has been put together so far. -/
def flush : Editing Unit := do
  let output := (← get).output
  modify fun e => { e with output := "" }
  session (Shell.write 1 output)

/-- Write bytes to the output, to the file that is changed or to a file. -/
def put (path : ByteText) (text : ByteText) : Editing Unit := do
  match path, (← get).edited with
  | "", some known => modify fun e => { e with edited := some (known ++ text) }
  | "", none =>
    let output := (← get).output ++ text
    if outputLimit < output.utf8ByteSize then
      modify fun e => { e with output := "" }
      session (Shell.write 1 output)
    else modify fun e => { e with output := output }
  | "/dev/stdout", _ =>
    flush
    session (Shell.write 1 text)
  | "/dev/stderr", _ => session (Shell.write 2 text)
  | path, _ =>
    let _ ← session (putContent path true text)

/-- Write the end of the last line if it is missing. -/
def finishLine (settings : EditSettings) (path : ByteText) : Editing Unit := do
  if (← get).unfinished.contains path then
    modify fun e => { e with unfinished := e.unfinished.filter (· != path) }
    put path settings.lineEnd.toString

/-- Write a line. -/
def putLine (settings : EditSettings) (path : ByteText) (chars : List Char) (isEnded : Bool) :
    Editing Unit := do
  finishLine settings path
  put path (String.ofList chars ++ if isEnded then settings.lineEnd.toString else "")
  if !isEnded then modify fun e => { e with unfinished := path :: e.unfinished }

/-- Show the text. -/
def showText (settings : EditSettings) (path : ByteText) : Editing Unit := do
  let e ← get
  putLine settings path e.text.chars e.text.isEnded

/-- Write what is to be written behind the line. -/
def putAppendices (settings : EditSettings) : Editing Unit := do
  let appendices := (← get).appendices.reverse
  modify fun e => { e with appendices := [] }
  for appendix in appendices do
    match appendix with
    | .text chars =>
      finishLine settings ""
      put "" (String.ofList chars)
    | .file path =>
      match ← session (contentOf (if path = "/dev/stdin" then "-" else path)) with
      | .ok content =>
        if !content.isEmpty then
          finishLine settings ""
          put "" content
      | .error _ => pure ()

/-! ### Reading -/

/-- Put the changed text in the place of the file. -/
def finishFile (settings : EditSettings) : Editing Unit := do
  let e ← get
  match e.edited, settings.inPlace with
  | some text, some behind =>
    set { e with edited := none, unfinished := e.unfinished.filter (· != "") }
    if !behind.isEmpty then
      let name := lastPart e.file
      let copy := if behind.toList.contains '*' then String.join (behind.toList.map fun c =>
          if c = '*' then name else c.toString)
        else name ++ behind
      let path := if copy.toList.contains '/' then copy
        else pathIn (String.ofList (e.file.toList.take (e.file.length - name.length))) copy
      match ← session (readFile e.file) with
      | .ok content =>
        let _ ← session (putContent path false content)
      | .error _ => pure ()
    let _ ← session (putContent e.file false text)
  | _, _ => pure ()
where
  /-- The last part of a path. -/
  lastPart (path : ByteText) : ByteText :=
    String.ofList (path.toList.reverse.takeWhile (· != '/')).reverse

/-- Open the next file, if there is one. A status ends the tool. If nothing is to be read yet, a
directory is a file without lines. -/
def openNext (settings : EditSettings) (reads : Bool) : Editing (Except Nat Bool) := do
  let e ← get
  match e.files with
  | [] => return .ok false
  | path :: files =>
    finishFile settings
    modify fun e =>
      { e with
        files := files, file := path,
        line := if settings.isSeparate then 0 else e.line,
        kept := if settings.isSeparate then ⟨[], true⟩ else e.kept
        sources := if settings.isSeparate then [] else e.sources
        ranges := if settings.isSeparate then [] else e.ranges }
    let c := settings.call
    let isFile ← session do
      match (← get).node path with
      | .ok (.file _) => return true
      | .ok _ => return false
      | .error _ => return true
    if settings.inPlace.isSome && !isFile then
      session (c.say ("couldn't edit " ++ path ++ ": not a regular file"))
      return .error 4
    match ← session (contentOf path) with
    | .ok content =>
      modify fun e =>
        { e with
          lines := splitLines settings.lineEnd content.toList
          edited := if settings.inPlace.isSome then some "" else none }
      return .ok true
    | .error .directory =>
      if reads then
        session (c.say ("read error on " ++ path ++ ": Is a directory"))
        return .error 4
      else return .ok true
    | .error fault =>
      session (c.say ("can't read " ++ path ++ ": " ++ fault.reason))
      modify fun e => { e with status := 2 }
      return .ok true

/-- Open files up to one with a line, and find out whether there is such a line. -/
def hasLine (settings : EditSettings) (reads : Bool) : (fuel : Nat) → Editing (Except Nat Bool)
  | 0 => return .ok false
  | fuel + 1 => do
    if !(← get).lines.isEmpty then return .ok true
    match ← openNext settings reads with
    | .ok true => hasLine settings reads fuel
    | other => return other

/-- Whether the line is the last one. -/
def isLast (settings : EditSettings) : Editing Bool := do
  let e ← get
  if !e.lines.isEmpty then return false
  if settings.isSeparate then return true
  match ← hasLine settings false (e.files.length + 1) with
  | .ok found => return !found
  | .error _ => return true

/-- Read the next line, in place of the text or behind it. -/
def readNext (settings : EditSettings) (appends : Bool) : Editing (Except Nat Bool) := do
  putAppendices settings
  match ← hasLine settings true ((← get).files.length + 1) with
  | .ok true =>
    modify fun e =>
      match e.lines with
      | line :: lines =>
        let chars := unended settings.lineEnd line
        let before := if appends then e.text.chars ++ [settings.lineEnd] else []
        { e with
          lines := lines, line := e.line + 1, hasReplaced := false,
          text := ⟨before ++ chars, chars.length < line.length⟩ }
      | [] => e
    return .ok true
  | other => return other

/-! ### Selecting lines -/

/-- The subject that a text is for a pattern. -/
def subject (p : EditPattern) (text : List Char) : Regex.Subject :=
  ⟨text.toArray, p.ignoresCase, true, p.isMultiline⟩

/-- The expression of a pattern, which counts as used last. -/
def regexOf (settings : EditSettings) (p : EditPattern) : Editing (Option Regex) := do
  match p.regex with
  | some r =>
    modify fun e => { e with lastPattern := some r }
    return some r
  | none =>
    let known := (← get).lastPattern
    if known.isNone then
      session (settings.call.say "-e expression #1, char 0: no previous regular expression")
      modify fun e => { e with status := 1 }
    return known

/-- Whether the line is one that a range starts with. -/
def isAt (settings : EditSettings) (start : LineStart) : Editing Bool := do
  let e ← get
  match start with
  | .line n => return e.line == n
  | .every first distance =>
    return first ≤ e.line && (e.line - first) % distance == 0
  | .last => isLast settings
  | .found p =>
    match ← regexOf settings p with
    | some r => return (r.search (subject p e.text.chars) 0).isSome
    | none => return false

/-- Let a range be in a state. -/
def enter (number : Nat) (state : RangeState) : Editing Unit :=
  modify fun e => { e with ranges := (number, state) :: e.ranges.filter (·.1 != number) }

/-- Whether a range that has not started starts with the line. -/
def startsRange (settings : EditSettings) (number : Nat) (start : LineStart) (stop : LineStop) :
    Editing Bool := do
  let line := (← get).line
  let starts ← match start with
    | .line n => pure (decide (n ≤ line))
    | start => isAt settings start
  if !starts then return false
  match stop with
  | .line (.line last) =>
    if last ≤ line then
      enter number (match start with
        | .line _ => .finished
        | _ => .waiting)
      return match start with
        | .line n => n == line || line ≤ last
        | _ => true
    else enter number (.active (some last))
  | .line .last =>
    if ← isLast settings then enter number (afterRange start) else enter number (.active none)
  | .line _ => enter number (.active none)
  | .after 0 => enter number (afterRange start)
  | .after count => enter number (.active (some (line + count)))
  | .multiple factor =>
    if factor = 0 then enter number (afterRange start)
    else enter number (.active (some (line + factor - line % factor)))
  return true
where
  /-- The state of a range behind its end. A range that starts with a line of a number does not
  start again. -/
  afterRange : LineStart → RangeState
    | .line _ => .finished
    | _ => .waiting

/-- Whether the line belongs to a range. -/
def isInRange (settings : EditSettings) (number : Nat) (start : LineStart) (stop : LineStop) :
    Editing Bool := do
  let e ← get
  let afterwards := match start with
    | .line _ => RangeState.finished
    | _ => .waiting
  match (e.ranges.lookup number).getD (RangeState.initial start), stop with
  | .finished, _ => return false
  | .waiting, _ => startsRange settings number start stop
  | .active _, .line (.line last) =>
    if last ≤ e.line then enter number afterwards
    return e.line ≤ last
  | .active _, .line stop =>
    if ← isAt settings stop then enter number afterwards
    return true
  | .active last, _ =>
    if last.all (· ≤ e.line) then enter number afterwards
    return true

/-- Whether a command is carried out for the line. -/
def applies (settings : EditSettings) (step : EditStep) : Editing Bool := do
  let holds ← match step.start, step.stop with
    | none, _ => pure true
    | some start, none => isAt settings start
    | some start, some stop => isInRange settings step.number start stop
  return holds != step.isNegated

/-! ### Replacing -/

/-- A text with letters changed, and the change for what follows. -/
def recased (all next : Recasing) (text : List Char) : List Char × Recasing :=
  let change (r : Recasing) (c : Char) : Char :=
    match r with
    | .upper => c.toUpper
    | .nextUpper => c.toUpper
    | .lower => c.toLower
    | .nextLower => c.toLower
    | .none => c
  match text with
  | [] => ([], next)
  | c :: rest =>
    (change (if next = .none then all else next) c :: rest.map (change all), .none)

/-- What takes the place of a match. -/
def replacement (s : Regex.Subject) (m : Regex.Match) (parts : List Replacement) : List Char :=
  let rec go (all next : Recasing) : List Replacement → List Char
    | [] => []
    | .recased r :: rest =>
      if r = .nextUpper ∨ r = .nextLower then go all r rest else go r next rest
    | .text chars :: rest =>
      let (text, next) := recased all next chars
      text ++ go all next rest
    | .group number :: rest =>
      let (text, next) := recased all next ((m.group? s number).getD [])
      text ++ go all next rest
  go .none .none parts

/-- The text with matches replaced from a place on, if one of them is replaced. -/
def replaced (s : Regex.Subject) (r : Regex) (u : Substitution) :
    (fuel : Nat) → (place count : Nat) → (lastEnd : Option Nat) → Option (List Char)
  | 0, _, _, _ => none
  | fuel + 1, place, count, lastEnd =>
    let between (first last : Nat) : List Char := (s.text.extract first last).toList
    match if s.text.size < place then none else r.search s place with
    | none => none
    | some m =>
      let isEmpty := m.first == m.last
      let onward (count : Nat) : Option (List Char) :=
        if isEmpty then
          (replaced s r u fuel (m.last + 1) count (some m.last)).map
            (between m.first (m.first + 1) ++ ·)
        else replaced s r u fuel m.last count (some m.last)
      let tail : List Char :=
        if isEmpty then between m.first s.text.size else between m.last s.text.size
      if isEmpty && lastEnd == some m.first then
        -- Nothing is replaced right behind a match.
        (onward count).map (between place m.first ++ ·)
      else
        let count := count + 1
        if count < u.first then
          (onward count).map (between place m.first ++ between m.first m.last ++ ·)
        else
          let new := replacement s m u.parts
          let rest := if u.isGlobal then (onward count).getD tail else tail
          some (between place m.first ++ new ++ rest)

/-! ### Commands -/

/-- The text up to the end of its first line, if it has one, and what is behind it. -/
def firstLine? (lineEnd : Char) (text : List Char) : Option (List Char × List Char) :=
  let first := text.takeWhile (· != lineEnd)
  if first.length < text.length then some (first, text.drop (first.length + 1)) else none

/-- A text so that every character can be seen, in lines of a width. -/
def escapedLines (lineEnd : Char) (width : Nat) (text : List Char) : List Char :=
  let shown (c : Char) : List Char :=
    let letters : List (Char × String) :=
      [('\\', "\\\\"), ('\x07', "\\a"), ('\x08', "\\b"), ('\x0c', "\\f"), ('\n', "\\n"),
        ('\r', "\\r"), ('\t', "\\t"), ('\x0b', "\\v")]
    match letters.lookup c with
    | some t => t.toList
    | none => if isPrintable c then [c] else '\\' :: (octalDigits c).toList
  let step (state : List Char × Nat) (c : Char) : List Char × Nat :=
    let (taken, used) := state
    let part := shown c
    if width != 0 && width - 1 < used + part.length then
      (part.reverse ++ lineEnd :: '\\' :: taken, part.length)
    else (part.reverse ++ taken, used + part.length)
  (text.foldl step ([], 0)).1.reverse ++ ['$', lineEnd]

/-- The output of a command. -/
def outputOf (c : Call) (command : List Char) : Editing (List Char) := do
  flush
  let (_, text) ← session (captured (c.run ["sh", "-c", String.ofList command]))
  return text.toList

/-- Carry out a substitution. -/
def substitute (settings : EditSettings) (u : Substitution) : Editing Unit := do
  match ← regexOf settings u.pattern with
  | none => return
  | some r =>
    let e ← get
    let s := subject u.pattern e.text.chars
    match replaced s r u (s.text.size + 2) 0 0 none with
    | none => return
    | some chars =>
      set { e with text := { e.text with chars := chars }, hasReplaced := true }
      if u.runs then
        let output ← outputOf settings.call chars
        modify fun e => { e with text := { e.text with chars := unended '\n' output } }
      if u.shows then showText settings ""
      match u.file with
      | some path => showText settings path
      | none => return

/-- Put an appendix behind the line. -/
def queue (appendix : Appendix) : Editing Unit :=
  modify fun e => { e with appendices := appendix :: e.appendices }

/-- The steps behind the end of the block that has been entered. -/
def behindBlock : (depth : Nat) → List EditStep → List EditStep
  | _, [] => []
  | depth, step :: steps =>
    match step.action, depth with
    | .blockEnd, 0 => steps
    | .blockEnd, depth + 1 => behindBlock depth steps
    | .block, depth => behindBlock (depth + 1) steps
    | _, depth => behindBlock depth steps

/-- The steps behind a label. An empty label is the end. -/
def behindLabel (name : ByteText) : List EditStep → List EditStep
  | [] => []
  | step :: steps =>
    match step.action with
    | .label known => if known = name then steps else behindLabel name steps
    | _ => behindLabel name steps

/-- Write a text before a line or in place of it. -/
def putInserted (settings : EditSettings) (text : List Char) : Editing Unit := do
  if text.isEmpty then return
  finishLine settings ""
  put "" (String.ofList text.dropLast ++ settings.lineEnd.toString)

/-- Carry out a command. Without a flow, the next command follows. -/
def carryOut (settings : EditSettings) (step : EditStep) : Editing (Option EditFlow) := do
  let e ← get
  let change (text : List Char) : Editing (Option EditFlow) := do
    set { e with text := { e.text with chars := text } }
    return none
  let isShown := !settings.isQuiet
  match step.action with
  | .block => return none
  | .blockEnd => return none
  | .label _ => return none
  | .jump _ _ => return none
  | .append text =>
    queue (.text text)
    return none
  | .insert text =>
    putInserted settings text
    return none
  | .change text =>
    let initial := (step.start.map RangeState.initial).getD .waiting
    let isInside := match (e.ranges.lookup step.number).getD initial with
      | .active _ => step.stop.isSome
      | _ => false
    if !isInside then putInserted settings text
    return some .nextLine
  | .delete => return some .nextLine
  | .deleteFirst =>
    match firstLine? settings.lineEnd e.text.chars with
    | none => return some .nextLine
    | some (_, rest) =>
      set { e with text := { e.text with chars := rest } }
      return some .again
  | .run [] =>
    let output ← outputOf settings.call e.text.chars
    change (unended '\n' output)
  | .run command =>
    let output ← outputOf settings.call command
    finishLine settings ""
    put "" (String.ofList output)
    return none
  | .showName =>
    finishLine settings ""
    put "" (e.file ++ settings.lineEnd.toString)
    return none
  | .get =>
    set { e with text := e.kept }
    return none
  | .getBehind =>
    set { e with text := ⟨e.text.chars ++ settings.lineEnd :: e.kept.chars, e.kept.isEnded⟩ }
    return none
  | .keep =>
    set { e with kept := e.text }
    return none
  | .keepBehind =>
    set { e with kept := ⟨e.kept.chars ++ settings.lineEnd :: e.text.chars, e.text.isEnded⟩ }
    return none
  | .showEscaped width =>
    finishLine settings ""
    put "" (String.ofList (escapedLines settings.lineEnd (width.getD settings.width) e.text.chars))
    return none
  | .next =>
    if ← isLast settings then return some .done
    if isShown then showText settings ""
    match ← readNext settings false with
    | .ok true => return none
    | .ok false => return some (.quit 0)
    | .error status => return some (.quit status)
  | .nextBehind =>
    if ← isLast settings then return some .done
    match ← readNext settings true with
    | .ok true => return none
    | .ok false => return some .done
    | .error status => return some (.quit status)
  | .show =>
    showText settings ""
    return none
  | .showFirst =>
    match firstLine? settings.lineEnd e.text.chars with
    | some (first, _) => putLine settings "" first true
    | none => showText settings ""
    return none
  | .quit silently status =>
    if !silently then
      if isShown then showText settings ""
      finishLine settings ""
      putAppendices settings
    return some (.quit status)
  | .readFile path =>
    queue (.file path)
    return none
  | .readLine path =>
    let lines ← match e.sources.lookup path with
      | some lines => pure lines
      | none =>
        match ← session (contentOf (if path = "/dev/stdin" then "-" else path)) with
        | .ok content => pure (splitLines settings.lineEnd content.toList)
        | .error _ => pure []
    modify fun e =>
      { e with sources := (path, lines.drop 1) :: e.sources.filter (·.1 != path) }
    match lines with
    | line :: _ => queue (.text line)
    | [] => pure ()
    return none
  | .substitute u =>
    substitute settings u
    return none
  | .write path =>
    showText settings path
    return none
  | .writeFirst path =>
    match firstLine? settings.lineEnd e.text.chars with
    | some (first, _) => putLine settings path first true
    | none => showText settings path
    return none
  | .exchange =>
    set { e with text := e.kept, kept := e.text }
    return none
  | .translate table =>
    change (e.text.chars.map fun c => (table.lookup c).getD c)
  | .empty => change []
  | .showNumber =>
    finishLine settings ""
    put "" (Nat.repr e.line ++ settings.lineEnd.toString)
    return none

/-- Carry out commands one behind the other. -/
def carryOutAll (settings : EditSettings) : (fuel : Nat) → List EditStep → Editing EditFlow
  | 0, _ => return .done
  | _ + 1, [] => return .done
  | fuel + 1, step :: steps => do
    if (← get).status = 1 then return .quit 1
    if !(← applies settings step) then
      match step.action with
      | .block => carryOutAll settings fuel (behindBlock 0 steps)
      | _ => carryOutAll settings fuel steps
    else
      match step.action with
      | .jump condition name =>
        let hasReplaced := (← get).hasReplaced
        let jumps := match condition with
          | .always => true
          | .replaced => hasReplaced
          | .unchanged => !hasReplaced
        if condition != .always then modify fun e => { e with hasReplaced := false }
        if jumps then
          carryOutAll settings fuel (if name.isEmpty then [] else behindLabel name settings.steps)
        else carryOutAll settings fuel steps
      | _ =>
        match ← carryOut settings step with
        | some flow => return flow
        | none => carryOutAll settings fuel steps

/-- The number of commands that are carried out for a line at most. -/
def stepLimit : Nat := 1000000000

/-- Carry the script out for line after line. -/
def editAll (settings : EditSettings) : (fuel : Nat) → (readsNext : Bool) → Editing Nat
  | 0, _ => return 0
  | fuel + 1, readsNext => do
    let next ← if readsNext then readNext settings false else pure (.ok true)
    match next with
    | .error status => return status
    | .ok false =>
      finishFile settings
      return (← get).status
    | .ok true =>
      match ← carryOutAll settings stepLimit settings.steps with
      | .done =>
        if (← get).status = 1 then return 1
        if !settings.isQuiet then showText settings ""
        editAll settings fuel true
      | .nextLine => editAll settings fuel true
      | .again => editAll settings fuel false
      | .quit status =>
        let e ← get
        -- What is left of a file that is changed stays.
        if e.edited.isSome then
          for line in e.lines do
            finishLine settings ""
            put "" (String.ofList line)
          finishFile settings
        else if e.file = "-" then
          session (giveBack 0 (Number.total (e.lines.map (·.length))))
        return if status = 0 then e.status else status

end Editor

/-! ### The tool -/

/-- The files that scripts write to. -/
def writtenFiles (steps : List EditStep) : List ByteText :=
  steps.filterMap fun step =>
    match step.action with
    | .write path => some path
    | .writeFirst path => some path
    | .substitute u => u.file
    | _ => none

/-- The label that a jump leads to but that is not there. -/
def missingLabel? (steps : List EditStep) : Option ByteText :=
  let known := steps.filterMap fun step =>
    match step.action with
    | .label name => some name
    | _ => none
  (steps.filterMap fun step =>
    match step.action with
    | .jump _ name => if name.isEmpty || known.contains name then none else some name
    | _ => none).head?

/-- A part of a script: what it is called where something is wrong with it, and its text. -/
inductive ScriptPart where
  /-- An expression of a number. -/
  | expression (number : Nat) (text : List Char)
  /-- A file. -/
  | file (path : ByteText) (text : List Char)

namespace ScriptPart

/-- The text of a part. -/
def text : ScriptPart → List Char
  | expression _ text => text
  | file _ text => text

/-- The place in a part where so many characters are left. -/
def place (part : ScriptPart) (left : Nat) : ByteText :=
  match part with
  | expression number text =>
    "-e expression #" ++ Nat.repr number ++ ", char " ++ Nat.repr (text.length - left)
  | file path text =>
    let lines := ((text.take (text.length - left)).filter (· == '\n')).length
    "file " ++ path ++ " line " ++ Nat.repr (lines + 1)

/-- The parts of a script. Expressions that end with a backslash go on with the next one. -/
def joined : List ScriptPart → List ScriptPart
  | expression n text :: rest =>
    match joined rest with
    | expression m other :: others =>
      if (text.reverse.takeWhile (· == '\\')).length % 2 = 1 then
        expression n (text ++ '\n' :: other) :: others
      else expression n text :: expression m other :: others
    | others => expression n text :: others
  | part :: rest => part :: joined rest
  | [] => []

end ScriptPart

/-- How the tool is used. -/
def editUsage : Run Nat := do
  write 2 ("Usage: sed [OPTION]... \x7bscript-only-if-no-other-script\x7d [input-file]...\n\n")
  return 1

/-- Read the options one by one: the parts of the script with the way in which each one is
written. -/
def scriptParts (c : Call) :
    List (Char × Option ByteText) → (style : Regex.Style) → (number : Nat) →
      Run (Except ByteText (List (Regex.Style × ScriptPart)))
  | [], _, _ => return .ok []
  | (letter, value) :: rest, style, number => do
    match letter, value with
    | 'E', _ => scriptParts c rest .extended number
    | 'r', _ => scriptParts c rest .extended number
    | 'e', some text =>
      let others ← scriptParts c rest style (number + 1)
      return others.map ((style, .expression number text.toList) :: ·)
    | 'f', some path =>
      match ← contentOf path with
      | .error fault => return .error ("couldn't open file " ++ path ++ ": " ++ fault.reason)
      | .ok content =>
        let others ← scriptParts c rest style number
        return others.map ((style, .file path content.toList) :: ·)
    | _, _ => scriptParts c rest style number

/-- Read the parts of a script. -/
def readParts : (isFirst : Bool) → EditReader → List (Regex.Style × ScriptPart) →
    Except ByteText EditReader
  | _, reader, [] =>
    if reader.depth = 0 then .ok reader
    else .error "-e expression #1, char 0: unmatched \x60\x7b'"
  | isFirst, reader, (style, part) :: rest =>
    match ({ reader with style := style }).read isFirst part.text with
    | .ok reader => readParts false reader rest
    | .error fault => .error (part.place fault.left ++ ": " ++ fault.message)

/-- Carry scripts out for the lines of files. -/
def editLines : Tool := fun c => do
  let known : KnownOptions :=
    { letters := "bsnrzuEe:f:l:i::V:"
      names := [("binary", 'b', .never), ("regexp-extended", 'r', .never),
        ("in-place", 'i', .perhaps), ("expression", 'e', .always), ("file", 'f', .always),
        ("line-length", 'l', .always), ("null-data", 'z', .never),
        ("zero-terminated", 'z', .never), ("quiet", 'n', .never), ("posix", 'p', .never),
        ("silent", 'n', .never), ("separate", 's', .never), ("unbuffered", 'u', .never),
        ("sandbox", 'S', .never), ("debug", 'D', .never), ("follow-symlinks", 'F', .never)] }
  match known.read false (Number.total (c.arguments.map (·.length + 1)) + 1) c.arguments with
  | .error message =>
    c.say message
    editUsage
  | .ok o =>
    let hasScript := o.has 'e' || o.has 'f'
    if !hasScript && o.operands.isEmpty then return ← editUsage
    let options := if hasScript then o.options
      else o.options ++ [('e', o.operands.head?)]
    let operands := if hasScript then o.operands else o.operands.drop 1
    match ← scriptParts c options .basic 1 with
    | .error message => c.fail 4 message
    | .ok parts =>
      let texts := parts.map (·.2)
      let joined := (ScriptPart.joined texts).map fun part =>
        (((parts.find? fun known => known.2.text.isPrefixOf part.text).map (·.1)).getD .basic, part)
      match readParts true ⟨[], [], 0, .basic, o.has 'n'⟩ joined with
      | .error message => c.fail 1 message
      | .ok reader =>
        let steps := reader.steps.reverse
        match missingLabel? steps with
        | some name => return ← c.fail 4 ("can't find label for jump to \x60" ++ name ++ "'")
        | none => pure ()
        for path in writtenFiles steps do
          if path != "/dev/stdout" && path != "/dev/stderr" then
            match ← putContent path false "" with
            | .ok () => pure ()
            | .error fault =>
              return ← c.fail 4 ("couldn't open file " ++ path ++ ": " ++ fault.reason)
        let inPlace := if o.has 'i' then some ((o.value? 'i').getD "") else none
        if inPlace.isSome && operands.isEmpty then return ← c.fail 4 "no input files"
        let settings : EditSettings :=
          { call := c, steps := steps, isQuiet := reader.isQuiet,
            lineEnd := if o.has 'z' then '\x00' else '\n',
            isSeparate := o.has 's' || o.has 'i', inPlace := inPlace,
            width := ((o.value? 'l').map fun text => (natural? text).getD 0).getD 70 }
        let editor : Editor :=
          { text := ⟨[], true⟩, kept := ⟨[], true⟩, line := 0, hasReplaced := false,
            appendices := [], ranges := [], lastPattern := none, lines := [], file := "-",
            files := if operands.isEmpty then ["-"] else operands, sources := [],
            unfinished := [], output := "", edited := none, status := 0 }
        let (status, editor) ← (Editor.editAll settings Editor.stepLimit true).run editor
        write 1 editor.output
        return status

end DesignAtlas.Shell.Tools
