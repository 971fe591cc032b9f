import DesignAtlas.Shell.Escape
import DesignAtlas.Shell.Reading.Source

/-!
# Reading words

How a shell takes words apart before anything in them is replaced. Blanks and operators end a word,
and quotes keep them inside it. Between double quotes only `"`, `$`, the backquote and the backslash
are special, and between single quotes nothing is.

* `readToken` takes the next token of a source.

Commands inside words are read by a reader for commands, which is given from outside.
-/

namespace DesignAtlas.Shell.Reading

open P

/-! ### Scopes -/

/-- Where pieces stand, and so where they end. -/
inductive Scope where
  /-- In a word, up to a blank or an operator. -/
  | word
  /-- Between double quotes. -/
  | quotes
  /-- In the braces behind a parameter, which may stand between double quotes or in a document.
  Inner quotes may be open, and characters besides the closing brace may end the pieces. -/
  | braces (quoted inner inDocument : Bool) (stops : List Char)
  /-- In an arithmetic expression, below so many open parentheses. -/
  | number (depth : Nat)
  /-- In a document, up to its end. -/
  | document
  /-- In the word that ends a document, where nothing is replaced, perhaps between double quotes. -/
  | last (quoted : Bool)
  /-- In the brackets behind the name of an array, below so many open brackets. -/
  | key (depth : Nat)
  /-- In the alternatives of a pattern, below so many open parentheses. -/
  | alternatives (depth : Nat)
  /-- In a regular expression, below so many open parentheses. -/
  | expression (depth : Nat)
  deriving DecidableEq, Repr

namespace Scope

/-- Whether characters are quoted. -/
def quoted : Scope → Bool
  | quotes => true
  | braces quoted _ _ _ => quoted
  | number _ => true
  | document => true
  | last quoted => quoted
  | _ => false

/-- Whether something is replaced. -/
def replaces : Scope → Bool
  | last _ => false
  | _ => true

/-- Whether the scope belongs to a document. -/
def inDocument : Scope → Bool
  | document => true
  | braces _ _ inDocument _ => inDocument
  | _ => false

/-- Whether pieces end at the start of a text. -/
def endsAt : Scope → Dialect → List Char → Bool
  | word, _, [] => true
  | word, .rich, '<' :: '(' :: _ => false
  | word, .rich, '>' :: '(' :: _ => false
  | word, _, c :: _ => endsWord c
  | last false, _, [] => true
  | last false, _, c :: _ => endsWord c
  | last true, _, c :: _ => c == '"'
  | quotes, _, c :: _ => c == '"'
  | braces _ false _ stops, _, c :: _ => c == '\x7d' || stops.contains c
  | number 0, _, ')' :: ')' :: _ => true
  | document, _, [] => true
  | key 0, _, ']' :: _ => true
  | alternatives 0, _, ')' :: _ => true
  | expression _, _, [] => true
  | expression 0, _, c :: _ => isBlank c || ['\n', ';', '&', '<', '>', ')'].contains c
  | _, _, _ => false

/-- The scope behind a character. -/
def next : Scope → Char → Scope
  | number depth, '(' => number (depth + 1)
  | number depth, ')' => number (depth - 1)
  | key depth, '[' => key (depth + 1)
  | key depth, ']' => key (depth - 1)
  | alternatives depth, '(' => alternatives (depth + 1)
  | alternatives depth, ')' => alternatives (depth - 1)
  | expression depth, '(' => expression (depth + 1)
  | expression depth, ')' => expression (depth - 1)
  | braces true inner inDocument stops, '"' => braces true (!inner) inDocument stops
  | scope, _ => scope

/-- Whether a character stands for itself and leaves the scope as it is. -/
def isPlain (scope : Scope) (c : Char) : Bool :=
  c.isAlphanum || c == '_' || c == '.' || c == '-' || c == '%' || c == ',' || 128 ≤ c.toNat ||
    (scope.quoted && scope.replaces && (c == ' ' || c == '\n' || c == ';' || c == '=')
      && !(scope matches .number _))

/-- What is wrong with a text that ends in the scope. -/
def faultAtEnd : Scope → SyntaxCause
  | number _ => .openBracket "))"
  | braces false _ _ _ => .openBracket "\x7d"
  | braces true _ true _ => .openBracket "\x7d"
  | key _ => .openBracket "]"
  | alternatives _ => .openBracket ")"
  | _ => .openQuote '"'

/-- Whether a character behind a backslash is special between quotes. -/
def escapes (scope : Scope) (c : Char) : Bool :=
  ['$', '\\', '\x60'].contains c || (scope != document && c == '"') ||
    (c == '\x7d' && (scope matches .braces _ _ _ _))

end Scope

/-! ### Literal pieces -/

/-- The pieces of a text between quotes. -/
def quotedText (text : List Char) : Word :=
  if text.isEmpty then [.mark] else [.mark, .literal (String.ofList text) true]

/-- Whether a piece stands for fields of which there can be none. -/
def isManifold : Piece → Bool
  | .parameter "@" .none use true => !(use matches .length)
  | .parameter _ .each use true => !(use matches .length)
  | .parameter _ _ (.namesFrom false) true => true
  | _ => false

/-- The pieces between double quotes. The arguments of a script on their own make no word if there
are none of them. -/
def quotedGroup (d : Dialect) (inner : Word) : Word :=
  match inner, d with
  | [.parameter "@" .none .plain true], _ => inner
  | _ :: _, .rich => if inner.all isManifold then inner else .mark :: inner
  | inner, _ => .mark :: inner

/-- The text up to a single quote, which is taken away as well. -/
def singleQuoted : P (List Char) := do
  let inner ← takeWhile (· != '\x27')
  if (← get).text.isEmpty then fail (.openQuote '\x27')
  skip 1
  return inner

/-- The text between `$'` and `'`, of which the first sign has been taken away. -/
def escapedQuoted : (fuel : Nat) → P ByteText
  | 0 => fail .tooDeep
  | fuel + 1 => do
    match (← get).text with
    | [] => fail (.openQuote '\x27')
    | '\x27' :: _ =>
      skip 1
      return ""
    | '\\' :: rest =>
      let (meaning, length) := (escapeMeaning .dollar rest).getD ("\\", 0)
      skip (1 + length)
      return meaning ++ (← escapedQuoted fuel)
    | _ =>
      let plain ← takeWhile fun c => c != '\x27' && c != '\\'
      return String.ofList plain ++ (← escapedQuoted fuel)

/-- The text up to a backquote, which is taken away as well. A backslash before a backquote, a
dollar sign or a backslash is taken away; between double quotes also one before a double quote. -/
def backquoted (quoted : Bool) : P (List Char) := do
  let rec split : List Char → Nat → Option (List Char × Nat)
    | [], _ => none
    | '\x60' :: _, taken => some ([], taken + 1)
    | '\\' :: '\n' :: rest, taken => split rest (taken + 2)
    | '\\' :: c :: rest, taken =>
      let kept :=
        if ['\x60', '$', '\\'].contains c || (quoted && c == '"') then [c] else ['\\', c]
      (split rest (taken + 2)).map fun found => (kept ++ found.1, found.2)
    | c :: rest, taken => (split rest (taken + 1)).map fun found => (c :: found.1, found.2)
  let text := (← get).text
  match split text 0 with
  | some (inner, taken) =>
    skip taken
    return inner
  | none =>
    skip text.length
    fail .openBackquote

/-! ### Parameters -/

/-- Whether a character can start the name of a parameter. -/
def isParameterStart (c : Char) : Bool :=
  isNameStart c || c.isDigit || specialParameters.contains c

/-- Take the name of a parameter. In braces, a number can have several digits. -/
def parameterName (inBraces : Bool) : P String := do
  match ← peek with
  | some c =>
    if isNameStart c then return String.ofList (← takeName)
    else if c.isDigit && inBraces then return String.ofList (← takeWhile Char.isDigit)
    else
      skip 1
      return c.toString
  | none => return ""
where
  /-- Take the characters of a name, joints of lines left out. -/
  takeName : P (List Char) := do
    let first ← takeWhile isNameChar
    match (← get).text with
    | '\\' :: '\n' :: _ =>
      skipJoints
      return first ++ (← takeWhile isNameChar)
    | _ => return first

/-- The uses of a parameter that are written with one sign, perhaps behind a colon. -/
def signedUse? : List Char → Option ((Word → Use) × Nat)
  | ':' :: '-' :: _ => some (.orElse true, 2)
  | '-' :: _ => some (.orElse false, 1)
  | ':' :: '=' :: _ => some (.orAssign true, 2)
  | '=' :: _ => some (.orAssign false, 1)
  | ':' :: '?' :: _ => some (.orExit true, 2)
  | '?' :: _ => some (.orExit false, 1)
  | ':' :: '+' :: _ => some (.ifSet true, 2)
  | '+' :: _ => some (.ifSet false, 1)
  | '#' :: '#' :: _ => some (.trimmed .longestStart, 2)
  | '#' :: _ => some (.trimmed .shortestStart, 1)
  | '%' :: '%' :: _ => some (.trimmed .longestEnd, 2)
  | '%' :: _ => some (.trimmed .shortestEnd, 1)
  | _ => none

/-- The changes of case that are written at the start of a text, and whether they concern all
letters. -/
def recasing? : List Char → Option (Recasing × Bool × Nat)
  | '^' :: '^' :: _ => some (.upper, true, 2)
  | '^' :: _ => some (.upper, false, 1)
  | ',' :: ',' :: _ => some (.lower, true, 2)
  | ',' :: _ => some (.lower, false, 1)
  | '~' :: '~' :: _ => some (.other, true, 2)
  | '~' :: _ => some (.other, false, 1)
  | _ => none

/-- Where a text is replaced, as it is written at the start of a text. -/
def replacedPlace : List Char → Place × Nat
  | '/' :: _ => (.every, 1)
  | '#' :: _ => (.start, 1)
  | '%' :: _ => (.ending, 1)
  | _ => (.first, 0)

/-! ### Words -/

section

variable (commands : P Command)

/-- Read commands up to the parenthesis that closes them, and take it away. Documents that are asked
for inside are read inside. -/
def enclosed : P Command := do
  let before ← get
  set { before with pushed := none, pending := [] }
  let c ← commands
  let t ← closer
  match t with
  | .operator .closing => pure ()
  | t => unexpectedFor t "\")\""
  modify fun s => { s with pushed := none, pending := before.pending ++ s.pending }
  return c
where
  /-- The token that has been put back behind the commands. -/
  closer : P Token := do
    match (← get).pushed with
    | some t => return t
    | none => return .ending

/-- Read the commands between backquotes. What stands behind them is left out. -/
def enclosedInBackquotes (quoted : Bool) : P Command := do
  let inner ← backquoted quoted
  let before ← get
  set { before with text := inner, line := 1, pushed := none, pending := [] }
  let c ← commands
  modify fun s => { before with documents := s.documents }
  return c

mutual

/-- Read pieces up to the end of their scope. -/
def pieces : (fuel : Nat) → Scope → P Word
  | 0, _ => fail .tooDeep
  | fuel + 1, scope => do
    let s ← get
    if scope.endsAt s.dialect s.text then return []
    match s.text with
    | [] => fail scope.faultAtEnd
    | c :: _ =>
      if scope.isPlain c then
        let plain ← takeWhile scope.isPlain
        return Word.withText (String.ofList plain) scope.quoted (← pieces fuel scope)
      else
        let first ← piece fuel scope c
        let others ← pieces fuel (scope.next c)
        match first with
        | [.literal text quoted] => return Word.withText text quoted others
        | first => return first ++ others

/-- Read the pieces that start with a character. -/
def piece : (fuel : Nat) → Scope → Char → P Word
  | 0, _, _ => fail .tooDeep
  | fuel + 1, scope, c => do
    let d := (← get).dialect
    skip 1
    match c with
    | '\\' =>
      match (← get).text with
      | [] => return [.literal "\\" true]
      | '\n' :: _ =>
        skip 1
        return []
      | c :: _ =>
        skip 1
        if scope.quoted && !scope.escapes c then
          return [.literal (String.ofList ['\\', c]) true]
        else return [.literal c.toString true]
    | '\x27' =>
      if scope.quoted then return [.literal "\x27" true]
      else return quotedText (← singleQuoted)
    | '"' =>
      match scope, d with
      | .document, _ => return [.literal "\"" true]
      | .braces true _ _ _, _ => return [.mark]
      | .number _, .plain => return [.literal "\"" true]
      | .number _, .rich => return []
      | .last _, _ =>
        let inner ← pieces fuel (.last true)
        skip 1
        return .mark :: inner
      | _, d =>
        let inner ← pieces fuel .quotes
        skip 1
        return quotedGroup d inner
    | '\x60' =>
      if scope.replaces then
        return [.output (← enclosedInBackquotes commands (scope == .quotes)) scope.quoted]
      else return [.literal "\x60" scope.quoted]
    | '$' => if scope.replaces then dollar fuel scope else return [.literal "$" scope.quoted]
    | c =>
      match d, scope, (← get).text with
      | .rich, .word, '(' :: _ =>
        if c = '<' ∨ c = '>' then
          skip 1
          return [.process (c == '<') (← enclosed commands)]
        else alternative fuel scope c
      | .rich, .alternatives _, '(' :: _ => alternative fuel scope c
      | .rich, .braces false _ _ _, '(' :: _ => alternative fuel scope c
      | _, _, _ => return [.literal c.toString scope.quoted]

/-- Read the alternatives of a pattern behind a character that announces them. -/
def alternative : (fuel : Nat) → Scope → Char → P Word
  | 0, _, _ => fail .tooDeep
  | fuel + 1, scope, c => do
    if ['@', '?', '*', '+'].contains c || (c == '!' && (← get).alternatives) then
      skip 1
      let inner ← pieces fuel (.alternatives 0)
      skip 1
      return .literal (c.toString ++ "(") false :: inner ++
        [.literal ")" false]
    else return [.literal c.toString scope.quoted]

/-- Read what stands behind a dollar sign. -/
def dollar : (fuel : Nat) → Scope → P Word
  | 0, _ => fail .tooDeep
  | fuel + 1, scope => do
    let d := (← get).dialect
    match ← peek with
    | some '(' =>
      skip 1
      if (← peek) = some '(' then
        match d with
        | .plain => return [← expression fuel scope.quoted]
        | .rich =>
          -- Two parentheses open an expression, unless they turn out to be a group in commands.
          match ← attempt (expression fuel scope.quoted) with
          | some found => return [found]
          | none => return [.output (← enclosed commands) scope.quoted]
      else return [.output (← enclosed commands) scope.quoted]
    | some '\x7b' =>
      skip 1
      match d with
      | .plain => return [← plainBraces fuel scope]
      | .rich => return [← richBraces fuel scope]
    | some '\x27' =>
      if d = .rich ∧ scope.quoted = false then
        skip 1
        return quotedText (← escapedQuoted fuel).toList
      else return [.literal "$" scope.quoted]
    | some '"' =>
      if d = .rich ∧ scope.quoted = false then return []
      else return [.literal "$" scope.quoted]
    | some c =>
      if isParameterStart c then
        return [.parameter (← parameterName false) .none .plain scope.quoted]
      else return [.literal "$" scope.quoted]
    | none => return [.literal "$" scope.quoted]

/-- Read an arithmetic expression behind the first of its parentheses. -/
def expression : (fuel : Nat) → (quoted : Bool) → P Piece
  | 0, _ => fail .tooDeep
  | fuel + 1, quoted => do
    skip 1
    let inner ← pieces fuel (.number 0)
    skip 2
    return .number inner quoted

/-- Read the word behind the sign of a use up to the closing brace, which is taken away. -/
def useWord : (fuel : Nat) → Scope → (use : Word → Use) → P Use
  | 0, _, _ => fail .tooDeep
  | fuel + 1, scope, use => do
    -- Quotes around the braces do not make a pattern inside them a plain text.
    let quoted := scope.quoted && !(use []).isTrimmed
    let inner ← pieces fuel (.braces quoted false scope.inDocument [])
    skip 1
    return use inner

/-- Skip what stands in the braces behind a parameter that is used in a senseless way. -/
def senseless : (fuel : Nat) → Scope → (start : List Char) → P Use
  | 0, _, _ => fail .tooDeep
  | fuel + 1, scope, start => do
    if (← get).text.head? ≠ some '\x7d' then skip 1
    let _ ← pieces fuel (.braces scope.quoted false scope.inDocument [])
    skip 1
    let taken := start.length - (← get).text.length
    return .senseless (String.ofList ("$\x7b".toList ++ start.take taken))

/-- Read a parameter in braces in the plain dialect. -/
def plainBraces : (fuel : Nat) → Scope → P Piece
  | 0, _ => fail .tooDeep
  | fuel + 1, scope => do
    let start := (← get).text
    match ← peek with
    | none => fail (Scope.faultAtEnd (.braces scope.quoted false scope.inDocument []))
    | some '#' =>
      let behind := (← get).text.drop 1
      match behind with
      | c :: next =>
        if isNameStart c || c.isDigit then
          skip 1
          let name ← parameterName true
          if ← accept "\x7d" then return .parameter name .none .length scope.quoted
          else return .parameter name .none (← senseless fuel scope start) scope.quoted
        else if c ≠ '\x7d' ∧ next.head? = some '\x7d' ∧ specialParameters.contains c then
          skip 3
          return .parameter c.toString .none .length scope.quoted
        else
          skip 1
          return .parameter "#" .none (← plainUse fuel scope start) scope.quoted
      | [] =>
        skip 1
        fail (Scope.faultAtEnd (.braces scope.quoted false scope.inDocument []))
    | some c =>
      if isParameterStart c then
        let name ← parameterName true
        return .parameter name .none (← plainUse fuel scope start) scope.quoted
      else return .parameter "" .none (← senseless fuel scope start) scope.quoted

/-- Read the use of a parameter behind its name in the plain dialect. -/
def plainUse : (fuel : Nat) → Scope → (start : List Char) → P Use
  | 0, _, _ => fail .tooDeep
  | fuel + 1, scope, start => do
    if ← accept "\x7d" then return .plain
    if ← accept ":\x7d" then return .plain
    skipJoints
    match signedUse? (← get).text with
    | some (use, length) =>
      skip length
      useWord fuel scope use
    | none => senseless fuel scope start

/-- Read a parameter in braces in the rich dialect. -/
def richBraces : (fuel : Nat) → Scope → P Piece
  | 0, _ => fail .tooDeep
  | fuel + 1, scope => do
    let start := (← get).text
    match start with
    | '#' :: c :: next =>
      let isLength := isNameStart c || c.isDigit ||
        (specialParameters.contains c && next.head? == some '\x7d')
      if isLength then
        skip 1
        let name ← parameterName true
        let key ← subscript fuel
        if ← accept "\x7d" then return .parameter name key .length scope.quoted
        else return .parameter name key (← senseless fuel scope start) scope.quoted
      else
        skip 1
        return .parameter "#" .none (← richUse fuel scope start) scope.quoted
    | '!' :: c :: _ =>
      if isNameStart c || c.isDigit || c == '@' || c == '*' || c == '#' then
        skip 1
        let name ← parameterName true
        if ← accept "*\x7d" then return .parameter name .none (.namesFrom true) scope.quoted
        if ← accept "@\x7d" then return .parameter name .none (.namesFrom false) scope.quoted
        let key ← subscript fuel
        match key, (← get).text with
        | .each, '\x7d' :: _ =>
          skip 1
          return .parameter name .each .keys scope.quoted
        | .joined, '\x7d' :: _ =>
          skip 1
          return .parameter name .joined .keys scope.quoted
        | key, _ =>
          return .parameter name key (.indirect (← richUse fuel scope start)) scope.quoted
      else
        skip 1
        return .parameter "!" .none (← richUse fuel scope start) scope.quoted
    | c :: _ =>
      if isParameterStart c then
        let name ← parameterName true
        let key ← if isName name then subscript fuel else pure .none
        return .parameter name key (← richUse fuel scope start) scope.quoted
      else return .parameter "" .none (← senseless fuel scope start) scope.quoted
    | [] => fail (.openBracket "\x7d")

/-- Read the place in an array, if one is written. -/
def subscript : (fuel : Nat) → P Subscript
  | 0 => fail .tooDeep
  | fuel + 1 => do
    if ← accept "[@]" then return .each
    if ← accept "[*]" then return .joined
    if ← accept "[" then
      let key ← pieces fuel (.key 0)
      skip 1
      return .at key
    return .none

/-- Read the use of a parameter behind its name in the rich dialect. -/
def richUse : (fuel : Nat) → Scope → (start : List Char) → P Use
  | 0, _, _ => fail .tooDeep
  | fuel + 1, scope, start => do
    let part (quoted : Bool) (stops : List Char) : P Word :=
      pieces fuel (.braces quoted false scope.inDocument stops)
    if ← accept "\x7d" then return .plain
    let text := (← get).text
    match signedUse? text, recasing? text, text with
    | some (use, length), _, _ =>
      skip length
      useWord fuel scope use
    | none, some (change, all, length), _ =>
      skip length
      useWord fuel scope (.recased change all)
    | none, none, ':' :: _ =>
      skip 1
      let first ← part scope.quoted [':']
      if ← accept ":" then
        let second ← part scope.quoted []
        skip 1
        return .slice first (some second)
      else
        skip 1
        return .slice first none
    | none, none, '/' :: rest =>
      let (place, length) := replacedPlace rest
      skip (1 + length)
      let pattern ← part false ['/']
      if ← accept "/" then
        let other ← part scope.quoted []
        skip 1
        return .replaced place pattern other
      else
        skip 1
        return .replaced place pattern []
    | none, none, '@' :: letter :: '\x7d' :: _ =>
      skip 3
      return .formed letter
    | none, none, _ => senseless fuel scope start

end

/-! ### Arrays -/

/-- Whether a text goes on behind a bracket that closes it with the sign of an assignment. -/
def assignsBehindBracket : (depth : Nat) → List Char → Bool
  | _, [] => false
  | _, '\n' :: _ => false
  | depth, '[' :: rest => assignsBehindBracket (depth + 1) rest
  | 0, ']' :: '=' :: _ => true
  | 0, ']' :: '+' :: '=' :: _ => true
  | 0, ']' :: _ => false
  | depth + 1, ']' :: rest => assignsBehindBracket depth rest
  | depth, _ :: rest => assignsBehindBracket depth rest

/-- Take blanks, ends of lines and comments away. -/
def skipGaps : (fuel : Nat) → P Unit
  | 0 => pure ()
  | fuel + 1 => do
    match (← get).text with
    | '#' :: _ =>
      let _ ← takeWhile (· != '\n')
      skipGaps fuel
    | '\\' :: '\n' :: _ =>
      skip 2
      skipGaps fuel
    | c :: _ =>
      if isBlank c || c == '\n' then
        skip 1
        skipGaps fuel
    | [] => pure ()

/-- Join literal pieces that stand side by side. -/
def joined : Word → Word
  | .literal text quoted :: rest =>
    Word.withText text quoted (joined rest)
  | piece :: rest => piece :: joined rest
  | [] => []

/-- Read the elements of an array up to the parenthesis that closes it, which is taken away. -/
def elements : (fuel : Nat) → P (List (ElementOf Word))
  | 0 => fail .tooDeep
  | fuel + 1 => do
    skipGaps fuel
    if ← accept ")" then return []
    let before := (← get).text
    let keyed := before.head? == some '[' && assignsBehindBracket 0 (before.drop 1)
    let key ←
      if keyed then do
        skip 1
        let key ← pieces commands fuel (.key 0)
        skip 1
        pure (Word.withText "[" false (key ++ [.literal "]" false]))
      else pure []
    let rest ← pieces commands fuel .word
    if (← get).text.length = before.length then fail (.openBracket ")")
    return Word.element (joined (key ++ rest)) :: (← elements fuel)

/-- Read the head of an assignment to an array or of an array, if the word starts with one: a name
with a place in brackets, and behind the sign perhaps the parenthesis that opens an array. -/
def assignmentHead (fuel : Nat) : P Word := do
  let s ← get
  let name := s.text.takeWhile isNameChar
  if !isName (String.ofList name) then return []
  let behind := s.text.drop name.length
  let head ←
    match behind with
    | '[' :: rest =>
      if assignsBehindBracket 0 rest then do
        skip (name.length + 1)
        let key ← pieces commands fuel (.key 0)
        skip 1
        pure (Word.withText (String.ofList name ++ "[") false (key ++ [.literal "]" false]))
      else pure []
    | '=' :: '(' :: _ => do
      skip name.length
      pure [.literal (String.ofList name) false]
    | '+' :: '=' :: '(' :: _ => do
      skip name.length
      pure [.literal (String.ofList name) false]
    | _ => pure []
  if head.isEmpty then return []
  let sign ← if ← accept "+=" then pure "+=" else do
    skip 1
    pure "="
  let head := head ++ [.literal sign false]
  if ← accept "(" then return head ++ [.array (← elements commands fuel)]
  else return head

/-- Read a word that ends at a blank or an operator. -/
def word (fuel : Nat) : P Word := do
  let head ← if (← get).dialect = .rich then assignmentHead commands fuel else pure []
  return joined (head ++ (← pieces commands fuel .word))

end

end DesignAtlas.Shell.Reading
