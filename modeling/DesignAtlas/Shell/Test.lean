import DesignAtlas.Shell.Numeral
import DesignAtlas.Shell.Parameter

/-!
# Tests

Conditions on files, texts and numbers that a script can ask for. In the plain dialect a word counts
as an operator by what stands behind it: an operator that wants an operand and has none is an
operand itself. In the rich dialect the number of words decides.

* `Session.testHolds` finds out whether a test holds, or what is wrong with it.
-/

namespace DesignAtlas.Shell

open Text

/-- What is wrong with a test. -/
inductive TestFault where
  /-- An operator has no operand. -/
  | noArgument (operator : ByteText)
  /-- A word stands where an operator should. -/
  | noOperator (word : ByteText)
  /-- A group is not closed. -/
  | notClosed
  /-- A word is no number. -/
  | noNumber (word : ByteText)
  /-- A word before an operand is no operator. -/
  | noUnary (word : ByteText)
  /-- A word between two operands is no operator. -/
  | noBinary (word : ByteText)
  /-- There are too many words. -/
  | tooMany
  deriving DecidableEq, Repr

/-- The wording of what is wrong with a test. -/
def TestFault.message (d : Dialect) : TestFault → ByteText
  | noArgument operator => operator ++ ": argument expected"
  | noOperator word =>
    if d = .plain then word ++ ": unexpected operator" else "too many arguments"
  | notClosed => if d = .plain then "closing paren expected" else "\x60)' expected"
  | noNumber word =>
    if d = .plain then "Illegal number: " ++ word else word ++ ": integer expression expected"
  | noUnary word => word ++ ": unary operator expected"
  | noBinary word => word ++ ": binary operator expected"
  | tooMany => "too many arguments"

/-- What a word of a test is taken for. -/
inductive TestToken where
  /-- There is no word. -/
  | stop
  /-- An operand. -/
  | operand
  /-- An operator before an operand. -/
  | unary (operator : String)
  /-- An operator between two operands. -/
  | binary (operator : String)
  /-- The negation of a test. -/
  | negation
  /-- Between two tests that are to hold both. -/
  | both
  /-- Between two tests one of which is to hold. -/
  | either
  /-- Opens a group. -/
  | opening
  /-- Closes a group. -/
  | closing
  deriving DecidableEq, Repr

/-- The operators before an operand. -/
def unaryTests : List String :=
  ["-r", "-w", "-x", "-e", "-f", "-d", "-c", "-b", "-p", "-u", "-g", "-k", "-s", "-t", "-z", "-n",
   "-h", "-O", "-G", "-L", "-S"]

/-- The operators before an operand that only the rich dialect has. -/
def richUnaryTests : List String :=
  ["-a", "-o", "-v", "-N", "-R"]

/-- The operators between two operands. -/
def binaryTests : List String :=
  ["=", "!=", "<", ">", "-eq", "-ne", "-ge", "-gt", "-le", "-lt", "-nt", "-ot", "-ef"]

/-- What the first of several words is taken for. -/
def testToken : List ByteText → TestToken
  | [] => .stop
  | first :: rest =>
    let isOperand :=
      match rest with
      | [] => true
      | [_] => false
      | next :: _ => binaryTests.contains next
    if unaryTests.contains first then (if isOperand then .operand else .unary first)
    else if binaryTests.contains first then .binary first
    else
      match first with
      | "!" => .negation
      | "-a" => .both
      | "-o" => .either
      | "(" => if rest.isEmpty then .operand else .opening
      | ")" => .closing
      | _ => .operand

/-! ### Operators -/

/-- The permissions of a node. -/
def modeOf : DiskNode → Mode
  | .file f => f.mode
  | .directory mode => mode
  | .link _ => ⟨0o777⟩
  | .device _ => ⟨0o666⟩
  | .program _ => ⟨0o555⟩

/-- When a node was changed. -/
def timeOf : DiskNode → Nat
  | .file f => f.modified
  | _ => 0

namespace Session

/-- Whether what stands where a path leads belongs to the one who works. -/
def owns (s : Session) (path : ByteText) : Bool :=
  match s.locate path with
  | .ok address => s.disk.nodes.any (·.1 == address) || address == s.disk.workingDirectory
  | .error _ => false

/-- What a test of a path is about. The names of descriptors stand for what is behind them. -/
def testedNode? (s : Session) (path : ByteText) : Option DiskNode :=
  match s.node? path with
  | some (.device (.descriptor n)) =>
    match s.stream? n with
    | some (.file address _ _ _ _) => s.disk.node? address
    | some (.directory address) => s.disk.node? address
    | some _ => some (.device (.descriptor n))
    | none => none
  | node => node

/-- Whether a node is a pipe, which only the names of descriptors lead to. -/
def isPipe (s : Session) : DiskNode → Bool
  | .device (.descriptor n) =>
    match s.stream? n with
    | some (.source _) => true
    | some (.collector _ _) => true
    | _ => false
  | _ => false

/-- Whether a test with one operand holds. -/
def unaryTest (s : Session) (operator : String) (operand : ByteText) : Bool :=
  let node := s.testedNode? operand
  let hasMode (p : Mode → Bool) : Bool := node.any fun n => p (modeOf n)
  match operator with
  | "-n" => operand != ""
  | "-z" => operand == ""
  | "-e" => node.isSome
  | "-a" => node.isSome
  | "-f" => (node matches some (.file _)) || (node matches some (.program _))
  | "-d" => (node matches some (.directory _))
  | "-c" => (node matches some (.device _)) && !node.any s.isPipe
  | "-p" => node.any s.isPipe
  | "-r" => hasMode Mode.mayRead
  | "-w" => hasMode Mode.mayWrite
  | "-x" => hasMode Mode.mayEnter
  | "-u" => hasMode fun m => m.bits.testBit 11
  | "-g" => hasMode fun m => m.bits.testBit 10
  | "-k" => hasMode fun m => m.bits.testBit 9
  | "-s" =>
    match node with
    | some (.file f) => !f.content.isEmpty
    | some (.directory _) => true
    | some (.program _) => true
    | _ => false
  | "-h" => (s.entryAt operand matches some (.link _))
  | "-L" => (s.entryAt operand matches some (.link _))
  | "-O" => s.owns operand
  | "-G" => s.owns operand
  | "-v" => (s.assigned? operand).isSome
  | "-o" => false
  | _ => false

/-- Whether a test with two operands holds, unless it is about the numbers of the operands. -/
def binaryTest? (s : Session) (operator : String) (first second : ByteText) : Option Bool :=
  let times := (s.node? first |>.map timeOf, s.node? second |>.map timeOf)
  match operator with
  | "=" => some (first == second)
  | "==" => some (first == second)
  | "!=" => some (first != second)
  | "<" => some (decide (first < second))
  | ">" => some (decide (second < first))
  | "-ef" =>
    match s.locate first, s.locate second with
    | .ok a, .ok b =>
      match s.disk.node? a, s.disk.node? b with
      | some (.file f), some (.file g) => some (f.identity == g.identity)
      | _, _ => some (a == b)
    | _, _ => some false
  | "-nt" =>
    match times, s.dialect with
    | (some a, some b), _ => some (decide (b < a))
    | (some _, none), .rich => some true
    | _, _ => some false
  | "-ot" =>
    match times, s.dialect with
    | (some a, some b), _ => some (decide (a < b))
    | (none, some _), .rich => some true
    | _, _ => some false
  | _ => none

/-- The test on two numbers that an operator stands for. -/
def numberTest (operator : String) : Int → Int → Bool :=
  match operator with
  | "-eq" => (· == ·)
  | "-ne" => (· != ·)
  | "-lt" => fun a b => decide (a < b)
  | "-le" => fun a b => decide (a ≤ b)
  | "-gt" => fun a b => decide (b < a)
  | "-ge" => fun a b => decide (b ≤ a)
  | _ => fun _ _ => false

/-- Whether a test with two operands holds. -/
def binaryTest (s : Session) (operator : String) (first second : ByteText) :
    Except TestFault Bool := do
  match s.binaryTest? operator first second with
  | some holds => return holds
  | none =>
    let number (text : ByteText) : Except TestFault Int :=
      let inRange := (decimal? text).filter fun n =>
        decide (minNumber ≤ n) && decide (n ≤ maxNumber)
      match inRange with
      | some n => .ok n
      | none => .error (.noNumber text)
    return numberTest operator (← number first) (← number second)

/-! ### The plain dialect -/

/-- A reader of tests. It gives the last word that was read and those behind it. -/
abbrev ReadTest : Type := Except TestFault (Bool × List ByteText)

mutual

/-- Read tests one of which is to hold, from a word that is taken for a token. -/
def eitherTest (s : Session) : (fuel : Nat) → TestToken → List ByteText → ReadTest
  | 0, _, _ => .error .tooMany
  | fuel + 1, token, words => do
    let (first, words) ← bothTest s fuel token words
    match testToken words.tail with
    | .either => do
      let (second, words) ← eitherTest s fuel (testToken (words.drop 2)) (words.drop 2)
      return (first || second, words)
    | _ => return (first, words)

/-- Read tests that are to hold all. -/
def bothTest (s : Session) : (fuel : Nat) → TestToken → List ByteText → ReadTest
  | 0, _, _ => .error .tooMany
  | fuel + 1, token, words => do
    let (first, words) ← negatedTest s fuel token words
    match testToken words.tail with
    | .both => do
      let (second, words) ← bothTest s fuel (testToken (words.drop 2)) (words.drop 2)
      return (first && second, words)
    | _ => return (first, words)

/-- Read a test that may be negated. -/
def negatedTest (s : Session) : (fuel : Nat) → TestToken → List ByteText → ReadTest
  | 0, _, _ => .error .tooMany
  | fuel + 1, token, words =>
    match token with
    | .negation => do
      let next := testToken words.tail
      let (holds, words) ← negatedTest s fuel next (if next = .stop then words else words.tail)
      return (!holds, words)
    | token => primaryTest s fuel token words

/-- Read a test on operands, or a group. -/
def primaryTest (s : Session) : (fuel : Nat) → TestToken → List ByteText → ReadTest
  | 0, _, _ => .error .tooMany
  | fuel + 1, token, words =>
    match token, words with
    | .stop, words => .ok (false, words)
    | .opening, words =>
      let inner := words.tail
      if testToken inner = .closing then .ok (false, inner)
      else do
        let (holds, inner) ← eitherTest s fuel (testToken inner) inner
        if testToken inner.tail = .closing then return (holds, inner.tail)
        else throw .notClosed
    | .unary operator, _ :: operand :: rest =>
      .ok (s.unaryTest operator operand, operand :: rest)
    | .unary operator, _ => .error (.noArgument operator)
    | _, first :: rest =>
      match testToken rest, rest with
      | .binary operator, _ :: second :: rest => do
        return (← s.binaryTest operator first second, second :: rest)
      | .binary operator, _ => .error (.noArgument operator)
      | _, _ => .ok (first != "", first :: rest)
    | _, [] => .ok (false, [])

end

/-- Whether words that are taken for a test from a token on hold. No word may be left. -/
def wholeTest (s : Session) (token : TestToken) (words : List ByteText) :
    Except TestFault Bool := do
  -- Among four readers that call one another in turn, one takes a word away.
  let (holds, words) ← eitherTest s (4 * (words.length + 2)) token words
  match words with
  | last :: _ :: _ => throw (.noOperator last)
  | _ => return holds

/-- Whether a test of the plain dialect holds. Three and four words are looked at as a whole
first. -/
def plainTest (s : Session) : List ByteText → Except TestFault Bool
  | [] => .ok false
  | first :: rest =>
    let words := first :: rest
    let isGroupable := words.length = 3 ∨ words.length = 4
    let between := rest.head?.any binaryTests.contains
    if words.length = 3 ∧ between then wholeTest s .operand words
    else if isGroupable ∧ first = "(" ∧ words.getLast? = some ")" then
      wholeTest s (testToken rest.dropLast) rest.dropLast
    else if isGroupable ∧ first = "!" then (s.plainTest rest).map (!·)
    else wholeTest s (testToken words) words

/-! ### The rich dialect -/

/-- Whether a word is an operator before an operand. -/
def isRichUnary (word : ByteText) : Bool :=
  unaryTests.contains word || richUnaryTests.contains word

/-- Whether a word is an operator between two operands. -/
def isRichBinary (word : ByteText) : Bool :=
  binaryTests.contains word || word == "=="

mutual

/-- Read tests of the rich dialect one of which is to hold. Gives the words behind them. -/
def richEither (s : Session) : (fuel : Nat) → List ByteText → ReadTest
  | 0, _ => .error .tooMany
  | fuel + 1, words => do
    let (first, rest) ← richBoth s fuel words
    match rest with
    | "-o" :: rest =>
      let (second, rest) ← richEither s fuel rest
      return (first || second, rest)
    | rest => return (first, rest)

/-- Read tests of the rich dialect that are to hold all. -/
def richBoth (s : Session) : (fuel : Nat) → List ByteText → ReadTest
  | 0, _ => .error .tooMany
  | fuel + 1, words => do
    let (first, rest) ← richTerm s fuel words
    match rest with
    | "-a" :: rest =>
      let (second, rest) ← richBoth s fuel rest
      return (first && second, rest)
    | rest => return (first, rest)

/-- Read one test of the rich dialect. -/
def richTerm (s : Session) : (fuel : Nat) → List ByteText → ReadTest
  | 0, _ => .error .tooMany
  | fuel + 1, words =>
    match words with
    | [] => .error (.noArgument "")
    | "!" :: rest => do
      let (holds, rest) ← richTerm s fuel rest
      return (!holds, rest)
    | "(" :: rest => do
      let (holds, rest) ← richEither s fuel rest
      match rest with
      | ")" :: rest => return (holds, rest)
      | _ => throw .notClosed
    | first :: operator :: second :: rest =>
      if isRichBinary operator then do return (← s.binaryTest operator first second, rest)
      else if isRichUnary first then .ok (s.unaryTest first operator, second :: rest)
      else .ok (first != "", operator :: second :: rest)
    | [first, operand] =>
      if isRichUnary first then .ok (s.unaryTest first operand, [])
      else .ok (first != "", [operand])
    | [word] => .ok (word != "", [])

end

/-- Whether a test of the rich dialect holds. Up to four words are looked at as a whole first. -/
def richTest (s : Session) : (fuel : Nat) → List ByteText → Except TestFault Bool
  | 0, _ => .error .tooMany
  | fuel + 1, words =>
    let whole : Except TestFault Bool := do
      let (holds, rest) ← richEither s (4 * (words.length + 2)) words
      if rest.isEmpty then return holds else throw .tooMany
    match words with
    | [] => .ok false
    | [word] => .ok (word != "")
    | ["!", word] => .ok (word == "")
    | [operator, operand] =>
      if isRichUnary operator then .ok (s.unaryTest operator operand)
      else .error (.noUnary operator)
    | [first, operator, second] =>
      if isRichBinary operator then s.binaryTest operator first second
      else if operator = "-a" then .ok (first != "" && second != "")
      else if operator = "-o" then .ok (first != "" || second != "")
      else if first = "!" then (s.richTest fuel [operator, second]).map (!·)
      else if first = "(" ∧ second = ")" then .ok (operator != "")
      else .error (.noBinary operator)
    | [first, a, b, last] =>
      if first = "!" then (s.richTest fuel [a, b, last]).map (!·)
      else if first = "(" ∧ last = ")" then s.richTest fuel [a, b]
      else whole
    | _ => whole

/-- Whether a test holds. -/
def testHolds (s : Session) (words : List ByteText) : Except TestFault Bool :=
  match s.dialect with
  | .plain => s.plainTest words
  | .rich => s.richTest 10 words

end Session

end DesignAtlas.Shell
