import DesignAtlas.Number.Binary
import DesignAtlas.Shell.Records.Form
import DesignAtlas.Shell.Records.Script

/-!
# Reading scripts for records

* `Script.ofText` reads a script, or says what is wrong with it.
-/

namespace DesignAtlas.Shell.Records

open Number

/-- What is wrong with a script. -/
structure ScriptFault where
  /-- The line. -/
  line : Nat
  /-- What is wrong there. -/
  message : ByteText

/-- The state of reading. -/
structure ReaderState where
  /-- The text that is left. -/
  text : List Char
  /-- The line. -/
  line : Nat
  /-- The variables that everything shares. -/
  names : Array String
  /-- The functions, as far as they have been read. -/
  functions : Array (String × Option (Nat × Statement))
  /-- The variables of the function that is read. -/
  own : List String
  /-- Whether a sign for what is greater is one for a file. -/
  isPrinting : Bool
  /-- The number of loops around the statement that is read. -/
  loops : Nat
  /-- Whether a function is read. -/
  inFunction : Bool
  /-- Whether a rule for records is read. -/
  inRule : Bool

/-- A reader of scripts. -/
abbrev Read (α : Type) : Type :=
  StateT ReaderState (Except ScriptFault) α

namespace Read

/-! ### Characters and words -/

/-- Say that something is wrong. -/
def refuse {α : Type} (message : ByteText) : Read α := do
  throw ⟨(← get).line, message⟩

/-- Go on with a given text. -/
def goOn (text : List Char) : Read Unit :=
  modify fun s => { s with text := text }

/-- Skip blanks, comments and ends of lines behind backslashes. -/
def skipBlanks : Read Unit := do
  let rec go : (fuel : Nat) → Nat → List Char → Nat × List Char
    | 0, line, text => (line, text)
    | fuel + 1, line, text =>
      match text with
      | ' ' :: rest => go fuel line rest
      | '\t' :: rest => go fuel line rest
      | '\r' :: rest => go fuel line rest
      | '\x0c' :: rest => go fuel line rest
      | '\\' :: '\n' :: rest => go fuel (line + 1) rest
      | '\\' :: '\r' :: '\n' :: rest => go fuel (line + 1) rest
      | '#' :: rest => (line, rest.dropWhile (· != '\n'))
      | text => (line, text)
  let s ← get
  let (line, text) := go (s.text.length + 1) s.line s.text
  set { s with text := text, line := line }

/-- The text that is left behind blanks. -/
def left : Read (List Char) := do
  skipBlanks
  return (← get).text

/-- Skip ends of lines. -/
def skipLines : (fuel : Nat) → Read Unit
  | 0 => return
  | fuel + 1 => do
    match ← left with
    | '\n' :: rest =>
      modify fun s => { s with text := rest, line := s.line + 1 }
      skipLines fuel
    | _ => return

/-- Skip all ends of lines. -/
def skipAllLines : Read Unit := do
  skipLines ((← get).text.length + 1)

/-- Skip ends of lines and semicolons. -/
def skipSeparators : (fuel : Nat) → Read Unit
  | 0 => return
  | fuel + 1 => do
    skipAllLines
    match ← left with
    | ';' :: rest =>
      goOn rest
      skipSeparators fuel
    | _ => return

/-- Whether a character can start a name. -/
def startsName (c : Char) : Bool :=
  c.isAlpha || c == '_'

/-- The name at the start of a text. -/
def nameAt (text : List Char) : String :=
  if text.head?.any startsName then
    String.ofList (text.takeWhile fun c => c.isAlphanum || c == '_')
  else ""

/-- The signs of more than one character. -/
def longSigns : List String :=
  ["||", "&&", "==", "!=", "!~", "<=", ">=", ">>", "++", "--", "+=", "-=", "*=", "/=", "%=", "^="]

/-- The sign at the start of a text. -/
def signAt (text : List Char) : String :=
  match longSigns.find? fun sign => sign.toList.isPrefixOf text with
  | some sign => sign
  | none =>
    match text.head? with
    | some c => if c.isAlphanum || c == '_' || c == '"' then "" else c.toString
    | none => ""

/-- The next sign, which is not taken. -/
def sign : Read String :=
  return signAt (← left)

/-- Skip some characters. -/
def skip (count : Nat) : Read Unit :=
  modify fun s => { s with text := s.text.drop count }

/-- Take the next sign if it is a given one. -/
def takes (wanted : String) : Read Bool := do
  if (← sign) = wanted then
    skip wanted.length
    return true
  else return false

/-- What stands next, as messages show it. -/
def nextText : Read ByteText := do
  match ← left with
  | [] => return "end of file"
  | '\n' :: _ => return "end of line"
  | text =>
    let name := nameAt text
    return if name.isEmpty then
      (let sign := signAt text; if sign.isEmpty then "constant" else sign) else name

/-- Say that something else was expected. -/
def refuseNext {α : Type} : Read α := do
  refuse ("syntax error at or near " ++ (← nextText))

/-- Take a sign that has to be there. -/
def expect (wanted : String) : Read Unit := do
  if !(← takes wanted) then
    match wanted with
    | ")" => refuse ("missing ) near " ++ (← nextText))
    | "\x7d" => refuse ("missing \x7d near " ++ (← nextText))
    | _ => refuseNext

/-- The words that are no names of variables. -/
def reservedWords : List String :=
  ["BEGIN", "END", "function", "if", "else", "while", "for", "do", "break", "continue", "next",
    "nextfile", "exit", "return", "delete", "print", "printf", "getline", "in"]

/-- The functions that every script can call. -/
def knownFunctions : List (String × KnownFunction) :=
  [("length", .length), ("substr", .substr), ("index", .index), ("split", .split), ("sub", .sub),
    ("gsub", .gsub), ("match", .place), ("sprintf", .sprintf), ("sin", .sin), ("cos", .cos),
    ("atan2", .atan2), ("exp", .exp), ("log", .log), ("sqrt", .sqrt), ("int", .int),
    ("rand", .rand), ("srand", .srand), ("tolower", .tolower), ("toupper", .toupper),
    ("system", .system), ("close", .close), ("fflush", .fflush), ("systime", .systime)]

/-- The variable of a name. -/
def variableOf (name : String) : Read VariableRef := do
  let s ← get
  match s.own.idxOf? name, s.names.idxOf? name with
  | some i, _ => return .own i
  | none, some i => return .shared i
  | none, none =>
    set { s with names := s.names.push name }
    return .shared s.names.size

/-- The number of the function of a name. -/
def functionOf (name : String) : Read Nat := do
  let s ← get
  match s.functions.findIdx? (·.1 == name) with
  | some i => return i
  | none =>
    set { s with functions := s.functions.push (name, none) }
    return s.functions.size

/-- The text up to a quote, with what backslashes stand for. -/
def quotedText : (fuel : Nat) → List Char → (taken : List Char) → Option (List Char × List Char)
  | 0, _, _ => none
  | fuel + 1, text, taken =>
    match text with
    | [] => none
    | '\n' :: _ => none
    | '"' :: rest => some (taken.reverse, rest)
    | '\\' :: '\n' :: rest => quotedText fuel rest taken
    | '\\' :: '/' :: rest => quotedText fuel rest ('/' :: '\\' :: taken)
    | '\\' :: '\\' :: rest => quotedText fuel rest ('\\' :: taken)
    | '\\' :: rest =>
      match escapeAt? rest, rest with
      | some (c, behind), _ => quotedText fuel behind (c :: taken)
      | none, c :: behind => quotedText fuel behind (c :: '\\' :: taken)
      | none, [] => none
    | c :: rest => quotedText fuel rest (c :: taken)

/-- The text up to a slash, outside of brackets. -/
def slashedText : (fuel : Nat) → (inBrackets : Bool) → List Char → (taken : List Char) →
    Option (List Char × List Char)
  | 0, _, _, _ => none
  | fuel + 1, inBrackets, text, taken =>
    match text with
    | [] => none
    | '\n' :: _ => none
    | '\\' :: c :: rest => slashedText fuel inBrackets rest (c :: '\\' :: taken)
    | '/' :: rest =>
      if inBrackets then slashedText fuel true rest ('/' :: taken) else some (taken.reverse, rest)
    | '[' :: '^' :: ']' :: rest => slashedText fuel (!inBrackets) rest ([']', '^', '['] ++ taken)
    | '[' :: ']' :: rest => slashedText fuel (!inBrackets) rest ([']', '['] ++ taken)
    | '[' :: rest => slashedText fuel true rest ('[' :: taken)
    | ']' :: rest => slashedText fuel false rest (']' :: taken)
    | c :: rest => slashedText fuel inBrackets rest (c :: taken)

/-- Read a form between slashes. The first slash has been taken. -/
def slashedForm : Read Expr := do
  let text := (← get).text
  match slashedText (text.length + 1) false text [] with
  | some (form, rest) =>
    goOn rest
    match formOf form with
    | .ok r => return .form r
    | .error _ => refuse ("regular expression compile failed (bad class -- [], [^] or [)")
  | none =>
    let line := String.ofList ((text.takeWhile (· != '\n')).take 10)
    refuse ("runaway regular expression /" ++ line ++ " ...")

/-- Read something as if no sign stood for a file. -/
def unprinted {α : Type} (read : Read α) : Read α := do
  let before := (← get).isPrinting
  modify fun s => { s with isPrinting := false }
  let a ← read
  modify fun s => { s with isPrinting := before }
  return a

/-- Whether an expression is a place. -/
def isPlace : Expr → Bool
  | .variable _ => true
  | .field _ => true
  | .element _ _ => true
  | _ => false

/-- The signs of operators between numbers, by levels. -/
def operatorOf? (level : Nat) (sign : String) : Option Operator :=
  match level, sign with
  | 6, "+" => some .add
  | 6, "-" => some .subtract
  | 7, "*" => some .multiply
  | 7, "/" => some .divide
  | 7, "%" => some .remainder
  | _, _ => none

/-- The operator of a sign that changes a place. -/
def updateOf? (sign : String) : Option Operator :=
  ([("+=", .add), ("-=", .subtract), ("*=", .multiply), ("/=", .divide), ("%=", .remainder),
    ("^=", .power)] : List (String × Operator)).lookup sign

/-- The relation of a sign. -/
def relationOf? (sign : String) : Option Relation :=
  ([("<", .less), ("<=", .atMost), ("==", .equal), ("!=", .different), (">", .greater),
    (">=", .atLeast)] : List (String × Relation)).lookup sign

/-- Whether an operand can stand next, so that it is joined to the one in front of it. -/
def startsOperand (text : List Char) : Bool :=
  let name := nameAt text
  if !name.isEmpty then
    !(reservedWords.contains name) || name = "getline"
  else
    match text with
    | '+' :: '+' :: _ => true
    | '-' :: '-' :: _ => true
    | '.' :: d :: _ => d.isDigit
    | c :: _ => c.isDigit || ['"', '$', '('].contains c
    | [] => false

/-! ### Expressions -/

mutual

/-- Read an expression. -/
def expression : (fuel : Nat) → Read Expr
  | 0 => refuse "expression is too long"
  | fuel + 1 => do
    let c ← binary fuel 0
    if ← takes "?" then
      skipAllLines
      let a ← unprinted (expression fuel)
      skipAllLines
      expect ":"
      skipAllLines
      return .choice c a (← expression fuel)
    else return c

/-- Read operands with the operators of a level between them. -/
def binary : (fuel : Nat) → (level : Nat) → Read Expr
  | 0, _ => refuse "expression is too long"
  | fuel + 1, level => do
    if 8 ≤ level then unary fuel
    else
      let first ← binary fuel (level + 1)
      others fuel level first

/-- Read the operators of a level and their operands behind a first operand. -/
def others : (fuel : Nat) → (level : Nat) → Expr → Read Expr
  | 0, _, _ => refuse "expression is too long"
  | fuel + 1, level, first => do
    let text ← left
    let sign := signAt text
    let s ← get
    match level with
    | 0 =>
      if sign = "||" then
        skip 2
        skipAllLines
        others fuel level (.either first (← binary fuel 1))
      else return first
    | 1 =>
      if sign = "&&" then
        skip 2
        skipAllLines
        others fuel level (.both first (← binary fuel 2))
      else return first
    | 2 =>
      if nameAt text = "in" then
        skip 2
        let name := nameAt (← left)
        if name.isEmpty then refuseNext
        skip name.length
        let v ← variableOf name
        let keys := match first with
          | .several items => items
          | e => [e]
        others fuel level (.within keys v)
      else return first
    | 3 =>
      if sign = "~" then
        skip 1
        others fuel level (.fits first (← binary fuel 4))
      else if sign = "!~" then
        skip 2
        others fuel level (.isNot (.fits first (← binary fuel 4)))
      else return first
    | 4 =>
      match relationOf? sign with
      | some r =>
        if r = .greater ∧ s.isPrinting then return first
        else
          skip sign.length
          others fuel level (.compare r first (← binary fuel 5))
      | none => return first
    | 5 =>
      if startsOperand text then others fuel level (.joined first (← binary fuel 6))
      else return first
    | level =>
      match operatorOf? level sign with
      | some op =>
        skip sign.length
        skipBlanks
        others fuel level (.compute op first (← binary fuel (level + 1)))
      | none => return first

/-- Read an operand with signs in front of it, and powers. -/
def unary : (fuel : Nat) → Read Expr
  | 0 => refuse "expression is too long"
  | fuel + 1 => do
    match ← sign with
    | "!" =>
      skip 1
      return .isNot (← unary fuel)
    | "-" =>
      skip 1
      return .negate (← unary fuel)
    | "+" =>
      skip 1
      return .plus (← unary fuel)
    | _ =>
      let base ← suffixed fuel
      if ← takes "^" then return .compute .power base (← unary fuel)
      else return base

/-- Read an operand with what stands behind it. -/
def suffixed : (fuel : Nat) → Read Expr
  | 0 => refuse "expression is too long"
  | fuel + 1 => do
    let e ← operand fuel
    let e ←
      if isPlace e then do
        let sign ← sign
        match sign, updateOf? sign with
        | "=", _ =>
          skip 1
          skipAllLines
          pure (.assign e (← expression fuel))
        | "++", _ =>
          skip 2
          pure (.count false true e)
        | "--", _ =>
          skip 2
          pure (.count false false e)
        | _, some op =>
          skip 2
          skipAllLines
          pure (.update op e (← expression fuel))
        | _, none => pure e
      else pure e
    commandLines fuel e

/-- Read what takes records from the output of a command. -/
def commandLines : (fuel : Nat) → Expr → Read Expr
  | 0, e => return e
  | fuel + 1, e => do
    let s ← get
    match ← left with
    | '|' :: rest =>
      let behind := rest.dropWhile fun c => c == ' ' || c == '\t'
      if nameAt behind = "getline" && behind.take 1 != ['|'] then
        goOn (behind.drop 7)
        let place ← placeHere fuel
        commandLines fuel (.nextOfCommand place e)
      else
        set s
        return e
    | _ => return e

/-- Read a place if one stands here. -/
def placeHere : (fuel : Nat) → Read (List Expr)
  | 0 => return []
  | fuel + 1 => do
    let text ← left
    let name := nameAt text
    if text.head? = some '$' then return [← operand fuel]
    else if !name.isEmpty && !reservedWords.contains name &&
        (knownFunctions.lookup name).isNone && (text.drop name.length).head? != some '(' then
      return [← operand fuel]
    else return []

/-- Read an operand. -/
def operand : (fuel : Nat) → Read Expr
  | 0 => refuse "expression is too long"
  | fuel + 1 => do
    let text ← left
    let name := nameAt text
    if !name.isEmpty then named fuel name
    else
      match text with
      | '"' :: rest =>
        match quotedText (rest.length + 1) rest [] with
        | some (t, behind) =>
          goOn behind
          return .text (String.ofList t)
        | none =>
          let line := String.ofList ((rest.takeWhile (· != '\n')).take 10)
          refuse ("runaway string constant \"" ++ line ++ " ...")
      | '/' :: rest =>
        goOn rest
        slashedForm
      | '$' :: rest =>
        goOn rest
        match ← sign with
        | "-" =>
          skip 1
          return .field (.negate (← operand fuel))
        | "+" =>
          skip 1
          return .field (← operand fuel)
        | "!" =>
          skip 1
          return .field (.isNot (← operand fuel))
        | _ => return .field (← operand fuel)
      | '(' :: rest =>
        goOn rest
        let items ← unprinted (expressions fuel)
        expect ")"
        match items with
        | [e] => return .group e
        | [] => refuseNext
        | items => return .several items
      | '+' :: '+' :: rest =>
        goOn rest
        let place ← operand fuel
        if isPlace place then return .count true true place else refuseNext
      | '-' :: '-' :: rest =>
        goOn rest
        let place ← operand fuel
        if isPlace place then return .count true false place else refuseNext
      | '-' :: rest =>
        goOn rest
        return .negate (← operand fuel)
      | c :: _ =>
        if c.isDigit || c == '.' then
          -- A number is decimal.
          let digits := text.takeWhile Char.isDigit
          let number := if digits = ['0'] ∧ (text[1]?.any fun c => c == 'x' || c == 'X')
            then some (ReadNumber.fraction false 0 1, text.drop 1)
            else ReadNumber.atStart? false text
          match number with
          | some (n, behind) =>
            goOn behind
            return .number (n.toBinary .double).toFloat
          | none => refuseNext
        else refuseNext
      | [] => refuseNext

/-- Read expressions between commas, up to a closing bracket. -/
def expressions : (fuel : Nat) → Read (List Expr)
  | 0 => refuse "expression is too long"
  | fuel + 1 => do
    if (← sign) = ")" then return []
    let e ← expression fuel
    skipBlanks
    if (← sign) = "," then
      skip 1
      skipAllLines
      if (← sign) = ")" then refuseNext
      return e :: (← expressions fuel)
    else return [e]

/-- Read what starts with a name. -/
def named : (fuel : Nat) → String → Read Expr
  | 0, _ => refuse "expression is too long"
  | fuel + 1, name => do
    if name = "getline" then
      skip name.length
      let place ← placeHere fuel
      if (← sign) = "<" then
        skip 1
        return .nextOfFile place (← operand fuel)
      else return .nextRecord place
    else if reservedWords.contains name then refuseNext
    else
      match knownFunctions.lookup name with
      | some f =>
        skip name.length
        if (← sign) = "(" then
          skip 1
          let arguments ← unprinted (expressions fuel)
          expect ")"
          return .known f arguments
        else if f = .length then return .known f []
        else refuseNext
      | none =>
        skip name.length
        match (← get).text with
        | '(' :: rest =>
          goOn rest
          let arguments ← unprinted (expressions fuel)
          expect ")"
          return .call (← functionOf name) arguments
        | _ =>
          let v ← variableOf name
          if (← sign) = "[" then
            skip 1
            let keys ← unprinted (keyList fuel)
            expect "]"
            return .element v keys
          else return .variable v

/-- Read the keys of an entry. -/
def keyList : (fuel : Nat) → Read (List Expr)
  | 0 => refuse "expression is too long"
  | fuel + 1 => do
    let e ← expression fuel
    if (← sign) = "," then
      skip 1
      skipAllLines
      return e :: (← keyList fuel)
    else return [e]

end

/-! ### Statements -/

/-- The end of a statement. -/
def endStatement : Read Unit := do
  match ← left with
  | ';' :: rest => goOn rest
  | '\n' :: rest => modify fun s => { s with text := rest, line := s.line + 1 }
  | '\x7d' :: _ => return
  | [] => return
  | _ => refuseNext

/-- Whether the end of a statement stands here. -/
def isAtEnd : Read Bool := do
  match ← left with
  | [] => return true
  | c :: _ => return [';', '\n', '\x7d'].contains c

/-- Read what is written, and where to. -/
def printed (fuel : Nat) : Read (List Expr × Outlet × Expr) := do
  let isStop (sign : String) : Bool := [">", ">>", "|"].contains sign
  let rec items : (fuel : Nat) → Read (List Expr)
    | 0 => refuse "expression is too long"
    | fuel + 1 => do
      let e ← expression fuel
      if ← takes "," then
        skipAllLines
        return e :: (← items fuel)
      else return [e]
  modify fun s => { s with isPrinting := true }
  let found ← if (← isAtEnd) || isStop (← sign) then pure [] else items fuel
  let found := match found with
    | [.several inner] => inner
    | found => found
  let target (outlet : Outlet) (length : Nat) : Read (List Expr × Outlet × Expr) := do
    skip length
    let e ← expression fuel
    modify fun s => { s with isPrinting := false }
    return (found, outlet, e)
  match ← sign with
  | ">" => target .file 1
  | ">>" => target .fileEnd 2
  | "|" => target .command 1
  | _ =>
    modify fun s => { s with isPrinting := false }
    return (found, .standard, .text "")

/-- Read a statement that holds no others, without its end. -/
def simple (fuel : Nat) : Read Statement := do
  let name := nameAt (← left)
  match name with
  | "print" =>
    skip name.length
    let (items, outlet, target) ← printed fuel
    return .print items outlet target
  | "printf" =>
    skip name.length
    let (items, outlet, target) ← printed fuel
    if items.isEmpty then refuse "no arguments in call to printf"
    return .printf items outlet target
  | "delete" =>
    skip name.length
    let table := nameAt (← left)
    if table.isEmpty then refuseNext
    skip table.length
    let v ← variableOf table
    if ← takes "[" then
      let keys ← keyList fuel
      expect "]"
      return .delete v keys
    else return .deleteAll v
  | _ => return .expression (← expression fuel)

/-- Read the start of a loop over the keys of a table, if it is one. -/
def keyLoop? : Read (Option (VariableRef × VariableRef)) := do
  let before ← get
  let key := nameAt (← left)
  skip key.length
  let word := nameAt (← left)
  if key.isEmpty || word != "in" then
    set before
    return none
  skip 2
  let table := nameAt (← left)
  skip table.length
  if table.isEmpty || (← sign) != ")" then
    set before
    return none
  skip 1
  let k ← variableOf key
  return some (k, ← variableOf table)

/-- Read inside of a loop. -/
def looped {α : Type} (read : Read α) : Read α := do
  modify fun s => { s with loops := s.loops + 1 }
  let a ← read
  modify fun s => { s with loops := s.loops - 1 }
  return a

mutual

/-- Read a statement. -/
def statement : (fuel : Nat) → Read Statement
  | 0 => refuse "statement is too long"
  | fuel + 1 => do
    let text ← left
    let name := nameAt text
    match name, text.head? with
    | "", some '\x7b' =>
      skip 1
      let items ← statements fuel
      skipSeparators ((← get).text.length + 1)
      expect "\x7d"
      return .block items
    | "", some ';' =>
      skip 1
      return .block []
    | "if", _ =>
      skip name.length
      let c ← condition fuel
      let a ← body fuel
      -- An alternative can stand behind ends of lines.
      let before ← get
      skipSeparators (before.text.length + 1)
      if nameAt (← left) = "else" then
        skip 4
        return .choice c a (← body fuel)
      else
        set before
        return .choice c a (.block [])
    | "while", _ =>
      skip name.length
      let c ← condition fuel
      if ← takes ";" then return .whileDo c (.block [])
      return .whileDo c (← looped (body fuel))
    | "do", _ =>
      skip name.length
      let inner ← looped (body fuel)
      skipSeparators ((← get).text.length + 1)
      if nameAt (← left) != "while" then refuseNext
      skip 5
      let c ← condition fuel
      endStatement
      return .doWhile inner c
    | "for", _ =>
      skip name.length
      expect "("
      match ← keyLoop? with
      | some (key, table) => return .forKeys key table (← looped (body fuel))
      | none =>
        let start ← if (← sign) = ";" then pure (.block []) else simple fuel
        expect ";"
        skipAllLines
        let c ← if (← sign) = ";" then pure (.number 1) else expression fuel
        expect ";"
        skipAllLines
        let step ← if (← sign) = ")" then pure (.block []) else simple fuel
        expect ")"
        return .forDo start c step (← looped (body fuel))
    | "next", _ =>
      skip name.length
      if !(← get).inRule && !(← get).inFunction then refuse "improper use of next"
      endStatement
      return .next
    | "nextfile", _ =>
      skip name.length
      endStatement
      return .nextFile
    | "break", _ =>
      skip name.length
      if (← get).loops = 0 then refuse "break statement outside of loop"
      endStatement
      return .breakOut
    | "continue", _ =>
      skip name.length
      if (← get).loops = 0 then refuse "continue statement outside of loop"
      endStatement
      return .goOn
    | "exit", _ =>
      skip name.length
      let value ← if ← isAtEnd then pure [] else pure [← expression fuel]
      endStatement
      return .exit value
    | "return", _ =>
      skip name.length
      if !(← get).inFunction then refuse "return outside function body"
      let value ← if ← isAtEnd then pure [] else pure [← expression fuel]
      endStatement
      return .returnWith value
    | _, _ =>
      let s ← simple fuel
      endStatement
      return s

/-- Read a condition in brackets. -/
def condition : (fuel : Nat) → Read Expr
  | 0 => refuse "statement is too long"
  | fuel + 1 => do
    expect "("
    let e ← expression fuel
    expect ")"
    return e

/-- Read a statement behind ends of lines. -/
def body : (fuel : Nat) → Read Statement
  | 0 => refuse "statement is too long"
  | fuel + 1 => do
    skipAllLines
    statement fuel

/-- Read statements up to a closing brace. -/
def statements : (fuel : Nat) → Read (List Statement)
  | 0 => refuse "statement is too long"
  | fuel + 1 => do
    skipAllLines
    match ← left with
    | '\x7d' :: _ => return []
    | [] => return []
    | _ =>
      let s ← statement fuel
      return s :: (← statements fuel)

end

/-! ### Scripts -/

/-- Read the names between the brackets of a function. -/
def parameters : (fuel : Nat) → Read (List String)
  | 0 => refuse "statement is too long"
  | fuel + 1 => do
    skipAllLines
    let name := nameAt (← left)
    if name.isEmpty then return []
    skip name.length
    skipAllLines
    if ← takes "," then return name :: (← parameters fuel)
    else return [name]

/-- Read a block in braces. -/
def braced (fuel : Nat) : Read Statement := do
  skipBlanks
  if (← left).head? = some '\x7b' then statement fuel else refuseNext

/-- Read the rules of a script. -/
def rules : (fuel : Nat) → Script → Read Script
  | 0, script => return script
  | fuel + 1, script => do
    skipSeparators ((← get).text.length + 1)
    let text ← left
    let size := 16 * (text.length + 4)
    match nameAt text, text with
    | _, [] => return script
    | _, '\x7d' :: _ => refuse "extra '\x7d'"
    | "BEGIN", _ =>
      skip 5
      let s ← braced size
      rules fuel { script with start := script.start ++ [s] }
    | "END", _ =>
      skip 3
      let s ← braced size
      rules fuel { script with finish := script.finish ++ [s] }
    | "function", _ =>
      skip 8
      let name := nameAt (← left)
      if name.isEmpty then refuseNext
      skip name.length
      expect "("
      let own ← parameters size
      expect ")"
      skipAllLines
      let i ← functionOf name
      modify fun s => { s with own := own, inFunction := true }
      let s ← braced size
      modify fun r =>
        { r with
          own := [], inFunction := false
          functions := r.functions.setIfInBounds i (name, some (own.length, s)) }
      rules fuel script
    | _, _ =>
      modify fun s => { s with inRule := true }
      let pattern ←
        if text.head? = some '\x7b' then pure RecordPattern.every
        else do
          let first ← expression size
          if ← takes "," then
            skipAllLines
            pure (RecordPattern.range first (← expression size))
          else pure (RecordPattern.holds first)
      let action ←
        if (← left).head? = some '\x7b' then statement size
        else do
          endStatement
          pure (.print [] .standard (.text ""))
      modify fun s => { s with inRule := false }
      rules fuel { script with rules := script.rules ++ [⟨pattern, action⟩] }

end Read

/-- Read a script. -/
def Script.ofText (text : ByteText) : Except ScriptFault Script := do
  let start : ReaderState :=
    ⟨text.toList ++ ['\n'], 1, knownNames, #[], [], false, 0, false, false⟩
  let (script, s) ← (Read.rules (text.length + 2) ⟨[], [], [], #[], #[]⟩).run start
  match s.functions.find? (·.2.isNone) with
  | some (name, _) => throw ⟨s.line, "function " ++ name ++ " never defined"⟩
  | none =>
    let functions := s.functions.filterMap fun f =>
      f.2.map fun found => ScriptFunction.mk f.1 found.1 found.2
    return { script with functions := functions, names := s.names }

end DesignAtlas.Shell.Records
