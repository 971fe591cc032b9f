import DesignAtlas.Shell.Expression
import DesignAtlas.Shell.Syntax

/-!
# Arithmetic

How an integer expression is read. An operator is as long as it can be, and operators that bind
alike are taken from left to right, except for assignments, choices and powers.

* `expressionOf` reads a whole text as an expression, or says what is wrong with it.
-/

namespace DesignAtlas.Shell

/-- What is wrong with an arithmetic expression. -/
inductive ArithmeticCause where
  /-- An operand is missing. -/
  | noOperand
  /-- Something stands behind the expression. -/
  | noEnd
  /-- A parenthesis is not closed. -/
  | notClosed
  /-- A choice has no second operand. -/
  | noAlternative
  /-- Something is divided by 0. -/
  | divisionByZero
  /-- A power has a negative exponent. -/
  | negativeExponent
  /-- Something is assigned to what is no variable. -/
  | noVariable
  /-- A digit does not fit the base. -/
  | badDigit
  /-- Variables refer to one another without an end. -/
  | tooDeep
  deriving DecidableEq, Repr

/-- A fault of an arithmetic expression, with the text where it was found. -/
structure ArithmeticFault where
  /-- The cause. -/
  cause : ArithmeticCause
  /-- The text from the place of the fault on. -/
  token : ByteText
  deriving DecidableEq, Repr

/-- The wording of a fault of an expression. -/
def ArithmeticFault.message (d : Dialect) (expression : ByteText) (f : ArithmeticFault) :
    ByteText :=
  match d with
  | .plain =>
    let what :=
      match f.cause with
      | .noEnd => "expecting EOF"
      | .notClosed => "expecting ')'"
      | .noAlternative => "expecting ':'"
      | .divisionByZero => "division by zero"
      | _ => "expecting primary"
    "arithmetic expression: " ++ what ++ ": \"" ++ expression ++ "\""
  | .rich =>
    let what :=
      match f.cause with
      | .noOperand => "syntax error: operand expected"
      | .noEnd => "syntax error in expression"
      | .notClosed => "missing `)'"
      | .noAlternative => "`:' expected for conditional expression"
      | .divisionByZero => "division by 0"
      | .negativeExponent => "exponent less than 0"
      | .noVariable => "attempted assignment to non-variable"
      | .badDigit => "value too great for base"
      | .tooDeep => "expression recursion level exceeded"
    expression ++ ": " ++ what ++ " (error token is \"" ++ f.token ++ "\")"

namespace BinaryOperator

/-- The binary operators with their signs, from the ones that bind least to the ones that bind
most. -/
def levels : List (List (String × BinaryOperator)) :=
  [[("|", bitsOfEither)], [("^", bitsOfOne)], [("&", bitsOfBoth)],
   [("==", equal), ("!=", unequal)],
   [("<=", atMost), (">=", atLeast), ("<", less), (">", greater)],
   [("<<", shiftUp), (">>", shiftDown)], [("+", plus), ("-", minus)],
   [("*", times), ("/", quotient), ("%", remainder)]]

/-- The signs of assignments. -/
def assignments : List (String × Option BinaryOperator) :=
  [("=", none), ("+=", some plus), ("-=", some minus), ("*=", some times), ("/=", some quotient),
   ("%=", some remainder), ("<<=", some shiftUp), (">>=", some shiftDown),
   ("&=", some bitsOfBoth), ("^=", some bitsOfOne), ("|=", some bitsOfEither)]

end BinaryOperator

namespace Arithmetic

/-- A reader of expressions. The text from the last token on is kept for complaints. -/
abbrev A (α : Type) : Type :=
  StateT (List Char × List Char) (Except ArithmeticFault) α

/-- End with a fault at the last token. -/
def fail {α : Type} (cause : ArithmeticCause) : A α := do
  throw ⟨cause, String.ofList (← get).2⟩

/-- All signs of expressions, the longer ones first. -/
def signs (d : Dialect) : List String :=
  let all := ["||", "&&", "!", "~", "(", ")", "?", ":"] ++
    (if d = .rich then ["**", "++", "--", ","] else []) ++
    BinaryOperator.assignments.map (·.1) ++
    BinaryOperator.levels.flatMap fun level => level.map (·.1)
  [3, 2, 1].flatMap fun n => all.filter (·.length == n)

/-- Skip blanks. -/
def skipBlanks : A Unit :=
  modify fun s => (s.1.dropWhile fun c => c == ' ' || c == '\t' || c == '\n', s.2)

/-- The sign at the start of the text, if there is one. -/
def sign? (d : Dialect) : A (Option String) := do
  let text := (← get).1
  return (signs d).find? fun sign => sign.toList.isPrefixOf text

/-- Take so many characters and the blanks behind them away. -/
def take (count : Nat) : A (List Char) := do
  let (text, _) ← get
  set (text.drop count, text)
  skipBlanks
  return text.take count

/-- Take one of several signs if it is next, and give what it means. -/
def accept? {α : Type} (d : Dialect) (wanted : List (String × α)) : A (Option α) := do
  match (← sign? d).bind fun sign => (wanted.lookup sign).map fun meaning => (sign, meaning) with
  | some (sign, meaning) =>
    let _ ← take sign.length
    return some meaning
  | none => return none

/-- Take a given sign if it is next. -/
def accept (d : Dialect) (wanted : String) : A Bool := do
  return (← accept? d [(wanted, ())]).isSome

/-- The length of a bracketed text up to the bracket that closes it. -/
def bracketLength : (depth : Nat) → List Char → Nat
  | _, [] => 0
  | depth, '[' :: rest => bracketLength (depth + 1) rest + 1
  | 0, ']' :: _ => 0
  | depth + 1, ']' :: rest => bracketLength depth rest + 1
  | depth, _ :: rest => bracketLength depth rest + 1

/-- Take a variable, if one is next. -/
def target? (d : Dialect) : A (Option Target) := do
  let (text, last) ← get
  let name := text.takeWhile isNameChar
  if !isName (String.ofList name) then return none
  let behind := text.drop name.length
  match d, behind with
  | .rich, '[' :: rest =>
    let length := bracketLength 0 rest
    set (rest.drop (length + 1), last)
    skipBlanks
    return some ⟨String.ofList name, some (String.ofList (rest.take length))⟩
  | _, _ =>
    let _ ← take name.length
    return some ⟨String.ofList name, none⟩

/-- The value of a digit in a base of up to 64. -/
def digitIn? (base : Nat) (c : Char) : Option Nat :=
  let value? :=
    if c.isDigit then some (c.toNat - 48)
    else if c.isLower then some (c.toNat - 87)
    else if c.isUpper then some (if base ≤ 36 then c.toNat - 55 else c.toNat - 29)
    else if c = '@' then some 62
    else if c = '_' then some 63
    else none
  value?.filter (· < base)

/-- Take a constant, whose first digit is next. -/
def constant (d : Dialect) : A Int := do
  let text := (← get).1
  match d with
  | .plain =>
    let (base, digits, _) := leadingDigits text
    let marks := if base = 16 then 2 else 0
    let _ ← take (marks + digits.length)
    return min ((numberIn? base digits).getD 0) maxNumber
  | .rich =>
    let isInside (c : Char) : Bool := c.isAlphanum || c == '_' || c == '@' || c == '#'
    let chars ← take (text.takeWhile isInside).length
    let (base, digits) :=
      match chars with
      | '0' :: 'x' :: digits => (16, digits)
      | '0' :: 'X' :: digits => (16, digits)
      | '0' :: c :: digits => if chars.contains '#' then (10, chars) else (8, c :: digits)
      | chars =>
        let base := chars.takeWhile (· != '#')
        if base.length < chars.length then
          (((numberIn? 10 base).getD 10).toNat, chars.drop (base.length + 1))
        else (10, chars)
    match digits.foldlM (fun (value : Int) c =>
        (digitIn? base c).map fun digit => value * base + digit) 0 with
    | some n => return wrapped n
    | none => fail .badDigit

/-- Read operands with operators of several levels between them. -/
def chain (d : Dialect) (operand : A Expression) :
    List (List (String × BinaryOperator)) → (fuel : Nat) → A Expression
  | [], _ => operand
  | level :: tighter, fuel => do
    let rec behind (first : Expression) : (fuel : Nat) → A Expression
      | 0 => return first
      | fuel + 1 => do
        match ← accept? d level with
        | none => return first
        | some o =>
          let text := (← get).1
          let second ← chain d operand tighter fuel
          behind (.binary o first second (String.ofList text)) fuel
    behind (← chain d operand tighter fuel) fuel

/-- Read operands with a sign between them, linked from the last one on. -/
def linked (d : Dialect) (link : Expression → Expression → Expression) (between : String)
    (operand : A Expression) : (fuel : Nat) → A Expression
  | 0 => operand
  | fuel + 1 => do
    let first ← operand
    if ← accept d between then return link first (← linked d link between operand fuel)
    else return first

mutual

/-- Read expressions of which only the last one counts. -/
def several (d : Dialect) : (fuel : Nat) → A Expression
  | 0 => fail .tooDeep
  | fuel + 1 => do
    let first ← assignment d fuel
    if d = .rich then
      if ← accept d "," then return .second first (← several d fuel)
    return first

/-- Read an assignment, or else an expression that assigns nothing outside parentheses. -/
def assignment (d : Dialect) : (fuel : Nat) → A Expression
  | 0 => fail .tooDeep
  | fuel + 1 => do
    let before ← get
    match ← target? d with
    | none => conditional d fuel
    | some t =>
      match ← accept? d BinaryOperator.assignments with
      | some o => return .assign t o (← assignment d fuel)
      | none =>
        set before
        conditional d fuel

/-- Read an expression with a choice between two values. -/
def conditional (d : Dialect) : (fuel : Nat) → A Expression
  | 0 => fail .tooDeep
  | fuel + 1 => do
    let operand := chain d (power d fuel) BinaryOperator.levels fuel
    let test ← linked d .either "||" (linked d .both "&&" operand fuel) fuel
    if ← accept d "?" then
      let yes ← several d fuel
      if ← accept d ":" then return .choice test yes (← conditional d fuel)
      else fail .noAlternative
    else
      let assigns (sign : String) : Bool := (BinaryOperator.assignments.lookup sign).isSome
      if d = .rich ∧ (← sign? d).any assigns then
        let (text, _) ← get
        throw ⟨.noVariable, String.ofList text⟩
      return test

/-- Read an operand, perhaps with an exponent. -/
def power (d : Dialect) : (fuel : Nat) → A Expression
  | 0 => fail .tooDeep
  | fuel + 1 => do
    let first ← operand d fuel
    if d = .rich then
      if ← accept d "**" then return .binary .power first (← power d fuel) ""
    return first

/-- Read an operand: a constant, a variable, an operand with an operator before it, or an
expression in parentheses. -/
def operand (d : Dialect) : (fuel : Nat) → A Expression
  | 0 => fail .tooDeep
  | fuel + 1 => do
    match ← sign? d with
    | some "-" =>
      let _ ← take 1
      return .unary .opposite (← operand d fuel)
    | some "+" =>
      let _ ← take 1
      operand d fuel
    | some "!" =>
      let _ ← take 1
      return .unary .isZero (← operand d fuel)
    | some "~" =>
      let _ ← take 1
      return .unary .complement (← operand d fuel)
    | some "++" => changed d 1
    | some "--" => changed d (-1)
    | some "(" =>
      let _ ← take 1
      let inner ← several d fuel
      if ← accept d ")" then return inner else fail .notClosed
    | some _ => fail .noOperand
    | none =>
      let (text, _) ← get
      match text with
      | c :: _ =>
        if c.isDigit then return .number (← constant d)
        else
          match ← target? d with
          | some t =>
            match d, ← accept? d [("++", (1 : Int)), ("--", -1)] with
            | .rich, some step => return .change t step false
            | _, _ => return .value t
          | none =>
            set (text, text)
            fail .noOperand
      | [] => fail .noOperand

/-- Read a variable that is changed before it is looked at. -/
def changed (d : Dialect) (step : Int) : A Expression := do
  let _ ← take 2
  match ← target? d with
  | some t => return .change t step true
  | none => fail .noOperand

end

end Arithmetic

/-- The expression that a text is. In the rich dialect a text without anything is 0. -/
def expressionOf (d : Dialect) (text : ByteText) : Except ArithmeticFault Expression := do
  -- Among the readers that call one another, at least one in sixteen takes a character away.
  let fuel := 16 * (text.length + 2)
  let read : Arithmetic.A Expression := do
    Arithmetic.skipBlanks
    if d = .rich ∧ (← get).1.isEmpty then return .number 0
    let e ← Arithmetic.several d fuel
    let (rest, _) ← get
    if rest.isEmpty then return e
    else throw ⟨.noEnd, String.ofList rest⟩
  return (← read.run (text.toList, [])).1

end DesignAtlas.Shell
