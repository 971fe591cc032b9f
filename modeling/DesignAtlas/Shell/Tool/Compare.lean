import DesignAtlas.Number.Total
import DesignAtlas.Shell.Tool.Basic

/-!
# Comparing files by their bytes

Two files are compared byte by byte, and the first difference or all of them are shown.

* `compareBytes` is the tool.
-/

namespace DesignAtlas.Shell.Tools

open Text

/-- Point to the help of a tool that says its name in front of that, and end with a status. -/
def pointByName (c : Call) (status : Nat) : Run Nat :=
  c.fail status ("Try '" ++ c.name ++ " --help' for more information.")

/-- Complain about the use of a tool that says its name in every line, and end with a status. -/
def misusedByName (c : Call) (status : Nat) (text : ByteText) : Run Nat := do
  c.say text
  pointByName c status

/-- Read the options of a tool that says its name in every line, and do something with them. -/
def withOptionsByName (c : Call) (status : Nat) (letters : String)
    (names : List (String × Char × TakesArgument)) (work : FoundOptions → Run Nat) : Run Nat := do
  let fuel := Number.total (c.arguments.map (·.length + 1)) + 1
  match (KnownOptions.mk letters names).read false fuel c.arguments with
  | .ok found => work found
  | .error message => misusedByName c status message

/-- Whether two names stand for one file. -/
def isSameFile (s : Session) (a b : ByteText) : Bool :=
  if a = "-" ∨ b = "-" then a == b
  else
    match s.locate a, s.locate b with
    | .ok x, .ok y =>
      x == y || (match s.disk.node? x, s.disk.node? y with
        | some (.file f), some (.file g) => f.identity == g.identity
        | _, _ => false)
    | _, _ => false

/-- A byte in octal digits, in three columns. -/
def octalColumns (c : Char) : ByteText :=
  let digits := String.ofList (Nat.toDigits 8 c.toNat)
  "".pushn ' ' (3 - digits.length) ++ digits

/-- A byte in signs that can be seen. -/
def visibleByte (c : Char) : ByteText :=
  let low := if c.toNat < 128 then c.toNat else c.toNat - 128
  let mark := if c.toNat < 128 then "" else "M-"
  if low < 32 then mark ++ "^" ++ (Char.ofNat (low + 64)).toString
  else if low = 127 then mark ++ "^?"
  else mark ++ (Char.ofNat low).toString

/-- A text in a number of columns, at their right end. -/
def atRight (width : Nat) (text : ByteText) : ByteText :=
  "".pushn ' ' (width - text.length) ++ text

/-- A text in a number of columns, at their left end. -/
def atLeft (width : Nat) (text : ByteText) : ByteText :=
  text.pushn ' ' (width - text.length)

/-- The places where two texts differ, from a place on. -/
def differences : (place : Nat) → List Char → List Char → List (Nat × Char × Char)
  | place, a :: as, b :: bs =>
    if a = b then differences (place + 1) as bs
    else (place, a, b) :: differences (place + 1) as bs
  | _, _, _ => []

/-- The wording of the end of a file before the end of the other one. -/
def endText (name : ByteText) (part : List Char) (withLine : Bool) : ByteText :=
  if part.isEmpty then "EOF on " ++ name ++ " which is empty"
  else
    let newlines := part.count '\n'
    let line :=
      if !withLine then ""
      else if part.getLast? = some '\n' then ", line " ++ Nat.repr newlines
      else ", in line " ++ Nat.repr (newlines + 1)
    "EOF on " ++ name ++ " after byte " ++ Nat.repr part.length ++ line

/-- Compare two contents and show where they differ. -/
def showDifferences (c : Call) (o : FoundOptions) (first second : ByteText)
    (a b : List Char) : Run Nat := do
  let found := differences 0 a b
  let isSilent := o.has 's'
  let showsBytes := o.has 'b' || o.has 'c'
  let shorter := if b.length < a.length then second else first
  let isPart := a.length != b.length
  let part := if b.length < a.length then b else a
  if o.has 'l' then
    let width := (Nat.repr part.length).length
    -- What is found is written at the end.
    if isPart then c.say (endText shorter part false)
    for (place, x, y) in found do
      let bytes :=
        if showsBytes then
          octalColumns x ++ " " ++ atLeft 4 (visibleByte x) ++ " " ++ octalColumns y ++ " " ++
            visibleByte y
        else octalColumns x ++ " " ++ octalColumns y
      write 1 (atRight width (Nat.repr (place + 1)) ++ " " ++ bytes ++ "\n")
    return statusOf (found.isEmpty && !isPart)
  else
    match found with
    | [] =>
      if isPart && !isSilent then c.say (endText shorter part true)
      return statusOf (!isPart)
    | (place, x, y) :: _ =>
      let line := (a.take place).count '\n' + 1
      let unit := if showsBytes then "byte " else "char "
      let bytes :=
        if showsBytes then
          " is " ++ octalColumns x ++ " " ++ visibleByte x ++ " " ++ octalColumns y ++ " " ++
            visibleByte y
        else ""
      if !isSilent then
        write 1 (first ++ " " ++ second ++ " differ: " ++ unit ++ Nat.repr (place + 1) ++
          ", line " ++ Nat.repr line ++ bytes ++ "\n")
      return 1

/-- Compare two files byte by byte. -/
def compareBytes : Tool := fun c =>
  withOptionsByName c 2 "bci:ln:s"
      [("print-bytes", 'b', .never), ("print-chars", 'c', .never),
        ("ignore-initial", 'i', .always), ("verbose", 'l', .never), ("bytes", 'n', .always),
        ("quiet", 's', .never), ("silent", 's', .never)] fun o => do
    let skipsOf (text : ByteText) : Option (Nat × Nat) :=
      match text.splitOn ":" with
      | [both] => (sizeOf? both).map fun n => (n, n)
      | [first, second] =>
        match sizeOf? first, sizeOf? second with
        | some n, some m => some (n, m)
        | _, _ => none
      | _ => none
    let wrongSkip (text : ByteText) : Run Nat :=
      misusedByName c 2 ("invalid --ignore-initial value '" ++ text ++ "'")
    match (o.values 'i').find? fun text => (skipsOf text).isNone with
    | some text => return ← wrongSkip text
    | none => pure ()
    match (o.values 'n').find? fun text => (sizeOf? text).isNone with
    | some text => return ← misusedByName c 2 ("invalid --bytes value '" ++ text ++ "'")
    | none => pure ()
    if o.has 'l' && o.has 's' then
      return ← misusedByName c 2 "options -l and -s are incompatible"
    let wrongOperand := ((o.operands.drop 2).take 2).find? fun text => (sizeOf? text).isNone
    match o.operands, wrongOperand with
    | [], _ =>
      misusedByName c 2 ("missing operand after '" ++ c.arguments.getLastD c.name ++ "'")
    | _, some text => wrongSkip text
    | _ :: _ :: _ :: _ :: extra :: _, none => misusedByName c 2 ("extra operand '" ++ extra ++ "'")
    | first :: rest, none =>
      let second := rest.headD "-"
      let (skipA, skipB) := ((o.values 'i').reverse.findSome? skipsOf).getD (0, 0)
      let operandSkips := (rest.drop 1).filterMap sizeOf?
      let skipA := max skipA (operandSkips.headD 0)
      let skipB := max skipB (operandSkips[1]?.getD 0)
      let s ← get
      let wrong (name : ByteText) (fault : FileFault) : Run Nat := do
        -- Without words, only what cannot be opened is passed over.
        if !(o.has 's') || fault matches .directory then c.say (name ++ ": " ++ fault.reason)
        return 2
      let isOpen (name : ByteText) : Except FileFault Unit :=
        if name = "-" then .ok ()
        else match s.content name with
          | .ok _ => .ok ()
          | .error .directory => .ok ()
          | .error fault => .error fault
      match isOpen first, isOpen second with
      | .error fault, _ => wrong first fault
      | _, .error fault => wrong second fault
      | .ok (), .ok () =>
        if isSameFile s first second && skipA = skipB then return 0
        match ← contentOf first with
        | .error fault => wrong first fault
        | .ok a =>
          match ← contentOf second with
          | .error fault => wrong second fault
          | .ok b =>
            let limited (skip : Nat) (text : ByteText) : List Char :=
              let rest := text.toList.drop skip
              ((o.value? 'n').bind sizeOf?).elim rest rest.take
            showDifferences c o first second (limited skipA a) (limited skipB b)

end DesignAtlas.Shell.Tools
