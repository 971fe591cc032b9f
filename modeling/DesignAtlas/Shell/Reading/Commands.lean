import DesignAtlas.Number.Total
import DesignAtlas.Shell.Reading.Tokens

/-!
# Reading commands

The commands that a shell makes of tokens. Reserved words count only where a command may start.

* `nextLine` reads the commands up to the end of a line, which is as far as a shell reads before it
  starts to work. The commands in its words are read with it.
-/

namespace DesignAtlas.Shell.Reading

open P

/-- The utilities whose names no function can have in the plain dialect. -/
def specialUtilities : List String :=
  [".", ":", "break", "continue", "eval", "exec", "exit", "export", "readonly", "return", "set",
    "shift", "times", "trap", "unset"]

/-- Whether a token ends a list of commands. -/
def endsList : Token → Bool
  | .ending => true
  | .newline => true
  | .operator .closing => true
  | .operator .branchEnd => true
  | .operator .fallThrough => true
  | .operator .tryNext => true
  | .reserved text => ["do", "done", "elif", "else", "esac", "fi", "then", "\x7d"].contains text
  | _ => false

/-- Put redirections around a command. -/
def withRedirections (line : Nat) (c : Command) (rs : List Redirection) : Command :=
  if rs.isEmpty then c else .redirected line c rs

/-- Let a list go on with a command. -/
def following : Option Command → Command → Command
  | none, c => c
  | some before, c => .sequence before c

/-- The descriptor that a redirection is about by default. -/
def defaultDescriptor : Direction → Nat
  | .read => 0
  | .update => 0
  | .duplicateInput => 0
  | .document _ => 0
  | .line => 0
  | _ => 1

section

variable (commands : P Command)

/-- Read the word behind the sign of a redirection. -/
def redirection (fuel : Nat) : Token → P Redirection
  | .document descriptor withoutTabs => do
    -- A word of quotes alone is a word as well.
    skipBlanks fuel
    let w ← lastWord commands fuel
    if w.isEmpty then unexpected (← next commands .anything fuel)
    let number := (← get).documents.size
    let wanted : PendingDocument := ⟨number, w.text, w.hasQuotes, withoutTabs⟩
    modify fun s =>
      { s with documents := s.documents.push [], pending := s.pending ++ [wanted] }
    return ⟨descriptor.getD 0, .document number, []⟩
  | .redirection descriptor direction => do
    match ← next commands .anything fuel with
    | .word w =>
      let number := descriptor.getD (defaultDescriptor direction)
      let duplicates := direction = .duplicateOutput ∨ direction = .duplicateInput
      let isWritten := w.all fun piece => piece matches .literal _ _ | .mark
      let isShort := match w.text.toList with
        | ['-'] => true
        | [c] => c.isDigit
        | _ => false
      if (← get).dialect = .plain ∧ duplicates ∧ isWritten ∧ isShort = false then
        fail (.bad "fd number")
      return ⟨number, direction, w⟩
    | t => unexpected t
  | t => unexpected t

/-- Read redirections as long as there are any. -/
def redirections : (fuel : Nat) → P (List Redirection)
  | 0 => fail .tooDeep
  | fuel + 1 => do
    match ← next commands .commandHere fuel with
    | t@(.redirection _ _) => return (← redirection commands fuel t) :: (← redirections fuel)
    | t@(.document _ _) => return (← redirection commands fuel t) :: (← redirections fuel)
    | t =>
      putBack t
      return []

/-- Take a reserved word that has to be there. -/
def expect (fuel : Nat) (wanted : String) (expecting : Expecting) : P Unit := do
  match ← next commands expecting fuel with
  | .reserved text =>
    if text ≠ wanted then unexpectedFor (.reserved text) ("\"" ++ wanted ++ "\"")
  | t => unexpectedFor t ("\"" ++ wanted ++ "\"")

/-! ### Conditions -/

/-- The unary tests of a condition. -/
def unaryTests : List String :=
  ["-a", "-b", "-c", "-d", "-e", "-f", "-g", "-h", "-k", "-n", "-o", "-p", "-r", "-s", "-t", "-u",
    "-v", "-w", "-x", "-z", "-G", "-L", "-N", "-O", "-R", "-S"]

/-- The binary tests of a condition that are words. -/
def binaryTests : List String :=
  ["=", "==", "!=", "=~", "-eq", "-ne", "-lt", "-le", "-gt", "-ge", "-nt", "-ot", "-ef"]

mutual

/-- Read conditions linked by disjunction. -/
def condition : (fuel : Nat) → P Condition
  | 0 => fail .tooDeep
  | fuel + 1 => do
    let first ← conjunction fuel
    match ← next commands .reservedWord fuel with
    | .operator .either => return .either first (← condition fuel)
    | t =>
      putBack t
      return first

/-- Read conditions linked by conjunction. -/
def conjunction : (fuel : Nat) → P Condition
  | 0 => fail .tooDeep
  | fuel + 1 => do
    let first ← simpleCondition fuel
    match ← next commands .reservedWord fuel with
    | .operator .both => return .both first (← conjunction fuel)
    | t =>
      putBack t
      return first

/-- Read a single condition. -/
def simpleCondition : (fuel : Nat) → P Condition
  | 0 => fail .tooDeep
  | fuel + 1 => do
    match ← next commands .reservedWord fuel with
    | .operator .opening =>
      let c ← condition fuel
      match ← next commands .reservedWord fuel with
      | .operator .closing => return c
      | t => unexpected t
    | .reserved "!" => return .negated (← simpleCondition fuel)
    | .reserved text => wordCondition fuel (Word.ofText text)
    | .word w =>
      match Word.bareText? w with
      | some sign =>
        if unaryTests.contains sign then
          match ← next commands .anything fuel with
          | .word operand =>
            -- What looks like a unary test can be the first operand of a binary one.
            match Word.bareText? operand with
            | some second =>
              if binaryTests.contains second then
                putBack (.word operand)
                wordCondition fuel w
              else return .unary sign operand
            | none => return .unary sign operand
          | t =>
            putBack t
            return .word w
        else wordCondition fuel w
      | none => wordCondition fuel w
    | t => unexpected t

/-- Read a condition that starts with a word. -/
def wordCondition : (fuel : Nat) → Word → P Condition
  | 0, _ => fail .tooDeep
  | fuel + 1, first => do
    match ← next commands .reservedWord fuel with
    | .word sign =>
      match Word.bareText? sign with
      | some "=~" =>
        skipBlanks fuel
        let w ← pieces commands fuel (.expression 0)
        return .binary "=~" first (joined w)
      | some sign =>
        if binaryTests.contains sign then
          match ← next commands .anything fuel with
          | .word second => return .binary sign first second
          | t => unexpected t
        else unexpected (.word (Word.ofText sign))
      | none => unexpected (.word sign)
    | .redirection none .read =>
      match ← next commands .anything fuel with
      | .word second => return .binary "<" first second
      | t => unexpected t
    | .redirection none .replace =>
      match ← next commands .anything fuel with
      | .word second => return .binary ">" first second
      | t => unexpected t
    | t =>
      putBack t
      return .word first

end

/-! ### Simple commands -/

/-- Read the words of a loop up to the end of the line or a semicolon. -/
def loopWords : (fuel : Nat) → P (List Word)
  | 0 => fail .tooDeep
  | fuel + 1 => do
    match ← next commands .anything fuel with
    | .word w => return w :: (← loopWords fuel)
    | .newline =>
      readDocuments commands fuel
      return []
    | .operator .sequence => return []
    | t => unexpected t

/-- Read the patterns of a branch behind the first one. -/
def patterns : (fuel : Nat) → P (List Word)
  | 0 => fail .tooDeep
  | fuel + 1 => do
    match ← next commands .anything fuel with
    | .operator .closing => return []
    | .operator .pipe =>
      match ← next commands .anything fuel with
      | .word w => return w :: (← patterns fuel)
      | t => unexpectedFor t "\")\""
    | t => unexpectedFor t "\")\""

/-- The parts of a simple command that have been read. -/
structure SimpleParts where
  /-- The assignments before the other words. -/
  assignments : List Assignment
  /-- The words. -/
  words : List Word
  /-- The redirections. -/
  redirections : List Redirection
  /-- The line that the command counts for. -/
  line : Nat

namespace SimpleParts

/-- Add an assignment. -/
def addAssignment (parts : SimpleParts) (a : Assignment) : SimpleParts :=
  { parts with assignments := parts.assignments ++ [a] }

/-- Add a word. -/
def addWord (parts : SimpleParts) (w : Word) : SimpleParts :=
  { parts with words := parts.words ++ [w] }

/-- Add a redirection. -/
def addRedirection (parts : SimpleParts) (r : Redirection) : SimpleParts :=
  { parts with redirections := parts.redirections ++ [r] }

/-- The number of parts. -/
def count (parts : SimpleParts) : Nat :=
  parts.assignments.length + parts.words.length + parts.redirections.length

/-- The parts when another one has been read up to a line. In the rich dialect the command counts
for the line where its first part ends, or the second one behind a word. -/
def reaching (before : SimpleParts) (d : Dialect) (line : Nat) (after : SimpleParts) :
    SimpleParts :=
  let counts := before.count = 0 || (before.count = 1 && before.words.length = 1)
  if d = .rich && counts then { after with line := line } else after

end SimpleParts

/-- Read the parts of a simple command. Assignments stand before all other words. Gives nothing but
the only word if a parenthesis follows it. -/
def simpleParts : (fuel : Nat) → SimpleParts → P (Except Word SimpleParts)
  | 0, _ => fail .tooDeep
  | fuel + 1, parts => do
    let expecting : Expecting := if parts.words.isEmpty then .name else .anything
    match ← next commands expecting fuel with
    | .word w =>
      let s ← get
      let parts := parts.reaching s.dialect s.line <|
        match Word.assignment? s.dialect w, parts.words with
        | some a, [] => parts.addAssignment a
        | _, _ => parts.addWord w
      simpleParts fuel parts
    | t@(.redirection _ _) =>
      let r ← redirection commands fuel t
      let s ← get
      simpleParts fuel (parts.reaching s.dialect s.line (parts.addRedirection r))
    | t@(.document _ _) =>
      let r ← redirection commands fuel t
      let s ← get
      simpleParts fuel (parts.reaching s.dialect s.line (parts.addRedirection r))
    | .operator .opening =>
      match parts with
      | ⟨[], [w], [], _⟩ => return .error w
      | parts =>
        putBack (.operator .opening)
        return .ok parts
    | t =>
      putBack t
      return .ok parts

end

/-- Read the three parts of a counted loop and the parentheses that close it. -/
def countedParts (commands : P Command) (fuel : Nat) : P (Word × Word × Word) := do
  let part (stop : Char) : P Word := do
    let rec upTo : (fuel : Nat) → P Word
      | 0 => fail .tooDeep
      | fuel + 1 => do
        match (← get).text with
        | [] => fail (.openBracket "))")
        | c :: _ =>
          if c = stop then return []
          else
            let first ← piece commands fuel (.number 1) c
            return first ++ (← upTo fuel)
    upTo fuel
  let first ← part ';'
  skip 1
  let test ← part ';'
  skip 1
  let step ← pieces commands fuel (.number 0)
  skip 2
  return (joined first, joined test, joined step)

/-! ### Compound commands -/

/-- Where a list of commands stands. -/
inductive ListPlace where
  /-- At the top, where it ends with the line. -/
  | line
  /-- In a compound command, where it is not empty. -/
  | body
  /-- Where it can be empty. -/
  | branch
  deriving DecidableEq, Repr

mutual

/-- Read commands up to something that ends them. -/
def list : (fuel : Nat) → ListPlace → Option Command → P (Option Command)
  | 0, _, _ => fail .tooDeep
  | fuel + 1, place, before => do
    let inner := branch fuel
    let expecting : Expecting := if place = .line then .commandHere else .command
    match ← next inner expecting fuel with
    | .newline =>
      readDocuments inner fuel
      return before
    | .ending =>
      readDocuments inner fuel
      putBack .ending
      return before
    | t =>
      putBack t
      let mayEnd := place = .branch ∨ (place = .body ∧ before.isSome)
      if mayEnd ∧ endsList t then return before
      let c ← andOr fuel
      match ← next inner .anything fuel with
      | .operator .background =>
        list fuel place (some (following before (.background (← get).line c)))
      | .operator .sequence => list fuel place (some (following before c))
      | .newline =>
        putBack .newline
        list fuel place (some (following before c))
      | .ending =>
        readDocuments inner fuel
        putBack .ending
        return some (following before c)
      | t =>
        if place = .line then unexpected t
        putBack t
        return some (following before c)

/-- Read commands that may be missing. -/
def branch : (fuel : Nat) → P Command
  | 0 => fail .tooDeep
  | fuel + 1 => do return (← list fuel .branch none).getD .nothing

/-- Read the commands of a compound command. -/
def body : (fuel : Nat) → P Command
  | 0 => fail .tooDeep
  | fuel + 1 => do return (← list fuel .body none).getD .nothing

/-- Read pipelines that are linked by success and failure. -/
def andOr : (fuel : Nat) → P Command
  | 0 => fail .tooDeep
  | fuel + 1 => do
    let first ← pipeline fuel .anything
    linked fuel first

/-- Read what is linked to a command. Links are taken from left to right. -/
def linked : (fuel : Nat) → Command → P Command
  | 0, _ => fail .tooDeep
  | fuel + 1, first => do
    match ← next (branch fuel) .anything fuel with
    | .operator .both => linked fuel (.both first (← pipeline fuel .command))
    | .operator .either => linked fuel (.either first (← pipeline fuel .command))
    | t =>
      putBack t
      return first

/-- Read commands that hand their output on. -/
def pipeline : (fuel : Nat) → Expecting → P Command
  | 0, _ => fail .tooDeep
  | fuel + 1, expecting => do
    match ← next (branch fuel) expecting fuel with
    | .reserved "!" =>
      match (← get).dialect with
      | .plain => return .negated (← stages fuel (← command fuel .commandHere))
      | .rich => return .negated (← pipeline fuel .commandHere)
    | .reserved "time" =>
      match ← next (branch fuel) .commandHere fuel with
      | .word [.literal "-p" false] => return .timed (← pipeline fuel .commandHere)
      | t =>
        putBack t
        if endsList t then return .timed .nothing
        return .timed (← pipeline fuel .anything)
    | t =>
      putBack t
      stages fuel (← command fuel .anything)

/-- Read the stages of a pipeline behind the first one. -/
def stages : (fuel : Nat) → Command → P Command
  | 0, _ => fail .tooDeep
  | fuel + 1, first => do
    match ← stageList fuel first with
    | [single] => return single
    | several => return .pipeline several

/-- Read the stages of a pipeline from a first one on. -/
def stageList : (fuel : Nat) → Command → P (List Command)
  | 0, _ => fail .tooDeep
  | fuel + 1, first => do
    match ← next (branch fuel) .anything fuel with
    | .operator .pipe => return first :: (← stageList fuel (← command fuel .command))
    | .operator .pipeBoth =>
      let both := Command.redirected (← get).line first [⟨2, .duplicateOutput, Word.ofText "1"⟩]
      return both :: (← stageList fuel (← command fuel .command))
    | t =>
      putBack t
      return [first]

/-- Read a single command. -/
def command : (fuel : Nat) → Expecting → P Command
  | 0, _ => fail .tooDeep
  | fuel + 1, expecting => do
    let inner := branch fuel
    let t ← next inner expecting fuel
    let line := (← get).line
    match t with
    | .reserved "if" => finished fuel line (← conditional fuel)
    | .reserved "while" => finished fuel line (← loop fuel false)
    | .reserved "until" => finished fuel line (← loop fuel true)
    | .reserved "for" => finished fuel line (← each fuel line)
    | .reserved "case" =>
      match ← next inner .anything fuel with
      | .word subject =>
        match ← next inner .command fuel with
        | .reserved "in" => finished fuel line (.select line subject (← branches fuel))
        | t => unexpectedFor t "\"in\""
      | t => unexpectedFor t "word"
    | .operator .opening =>
      match ← arithmeticCommand? fuel line with
      | some c => finished fuel line c
      | none =>
        let c ← body fuel
        match ← next inner .anything fuel with
        | .operator .closing => finished fuel line (.subshell line c)
        | t => unexpectedFor t "\")\""
    | .reserved "\x7b" =>
      let c ← body fuel
      expect inner fuel "\x7d" .anything
      finished fuel line c
    | .reserved "[[" =>
      let c ← condition inner fuel
      match ← next inner .reservedWord fuel with
      | .word [.literal "]]" false] => finished fuel line (.condition line c)
      | t => unexpectedFor t "\"]]\""
    | .reserved "function" =>
      match ← next inner .anything fuel with
      | .word w =>
        match ← next inner .anything fuel with
        | .operator .opening =>
          match ← next inner .anything fuel with
          | .operator .closing => pure ()
          | t => unexpectedFor t "\")\""
        | t => putBack t
        return .define (← get).line w.text (← command fuel .command)
      | t => unexpectedFor t "word"
    | .word _ =>
      putBack t
      simple fuel line
    | .redirection _ _ =>
      putBack t
      simple fuel line
    | .document _ _ =>
      putBack t
      simple fuel line
    | t => unexpected t

/-- Read the redirections behind a compound command. -/
def finished : (fuel : Nat) → (line : Nat) → Command → P Command
  | 0, _, _ => fail .tooDeep
  | fuel + 1, line, c => do
    return withRedirections line c (← redirections (branch fuel) fuel)

/-- Read an arithmetic command behind its first parenthesis, if there is one. -/
def arithmeticCommand? : (fuel : Nat) → (line : Nat) → P (Option Command)
  | 0, _ => fail .tooDeep
  | fuel + 1, line => do
    let s ← get
    if s.dialect = .rich ∧ s.text.head? = some '(' then
      attempt do
        skip 1
        let w ← pieces (branch fuel) fuel (.number 0)
        skip 2
        return .arithmetic line (joined w)
    else return none

/-- Read a simple command, or the definition of a function. -/
def simple : (fuel : Nat) → (line : Nat) → P Command
  | 0, _ => fail .tooDeep
  | fuel + 1, line => do
    let inner := branch fuel
    match ← simpleParts inner fuel ⟨[], [], [], line⟩ with
    | .ok parts => return .simple parts.line parts.assignments parts.words parts.redirections
    | .error w =>
      match ← next inner .anything fuel with
      | .operator .closing =>
        let name := Word.bareText? w
        let isGood := match (← get).dialect with
          | .plain => name.any fun n => isName n && !specialUtilities.contains n
          | .rich => name.isSome
        if isGood = false then fail (.bad "function name")
        let start := (← get).line
        -- The rich dialect wants a compound command.
        if (← get).dialect = .rich then
          let first ← look inner .command fuel
          if (first matches .word _) then unexpected first
        return .define start w.text (← command fuel .command)
      | t => unexpectedFor t "\")\""

/-- Read a conditional command behind its first word. -/
def conditional : (fuel : Nat) → P Command
  | 0 => fail .tooDeep
  | fuel + 1 => do
    let inner := branch fuel
    let test ← body fuel
    expect inner fuel "then" .anything
    let yes ← body fuel
    match ← next inner .anything fuel with
    | .reserved "elif" => return .choice test yes (← conditional fuel)
    | .reserved "else" =>
      let no ← body fuel
      expect inner fuel "fi" .anything
      return .choice test yes no
    | t =>
      putBack t
      expect inner fuel "fi" .anything
      return .choice test yes .nothing

/-- Read a loop behind its first word. -/
def loop : (fuel : Nat) → (untilHolds : Bool) → P Command
  | 0, _ => fail .tooDeep
  | fuel + 1, untilHolds => do
    let test ← body fuel
    expect (branch fuel) fuel "do" .anything
    return .loop untilHolds test (← doGroup fuel)

/-- Read the body of a loop behind its first word. -/
def doGroup : (fuel : Nat) → P Command
  | 0 => fail .tooDeep
  | fuel + 1 => do
    let c ← body fuel
    expect (branch fuel) fuel "done" .anything
    return c

/-- Read the body of a loop, which braces may enclose in the rich dialect. -/
def loopBody : (fuel : Nat) → P Command
  | 0 => fail .tooDeep
  | fuel + 1 => do
    let inner := branch fuel
    match ← next inner .command fuel with
    | .reserved "do" => doGroup fuel
    | .reserved "\x7b" =>
      if (← get).dialect = .plain then unexpectedFor (.reserved "\x7b") "\"do\""
      let c ← body fuel
      expect inner fuel "\x7d" .anything
      return c
    | t => unexpectedFor t "\"do\""

/-- Read a loop over words behind its first word. -/
def each : (fuel : Nat) → (line : Nat) → P Command
  | 0, _ => fail .tooDeep
  | fuel + 1, line => do
    let inner := branch fuel
    skipBlanks fuel
    if (← get).dialect = .rich then
      if ← accept "((" then
        let (first, test, step) ← countedParts inner fuel
        match ← next inner .command fuel with
        | .operator .sequence => pure ()
        | t => putBack t
        return .counted line first test step (← loopBody fuel)
    match ← next inner .anything fuel with
    | .word w =>
      match (Word.bareText? w).filter isName with
      | none => fail (.bad "for loop variable")
      | some name =>
        match ← next inner .command fuel with
        | .reserved "in" =>
          let words ← loopWords inner fuel
          return .each line name (some words) (← loopBody fuel)
        | .operator .sequence => return .each line name none (← loopBody fuel)
        | t =>
          putBack t
          return .each line name none (← loopBody fuel)
    | _ => fail (.bad "for loop variable")

/-- Read the branches of a selection and the word that ends them. -/
def branches : (fuel : Nat) → P (List Branch)
  | 0 => fail .tooDeep
  | fuel + 1 => do
    let inner := branch fuel
    match ← next inner .reservedWord fuel with
    | .reserved "esac" => return []
    | t =>
      let t ← match t with
        | .operator .opening => next inner .anything fuel
        | t => pure t
      let first ← match t with
        | .word w => pure w
        | .reserved text => pure (Word.ofText text)
        | t => unexpectedFor t "\")\""
      let alternatives := first :: (← patterns inner fuel)
      let c ← branch fuel
      match ← next inner .reservedWord fuel with
      | .reserved "esac" => return [⟨alternatives, c, .leave⟩]
      | .operator .branchEnd => return ⟨alternatives, c, .leave⟩ :: (← branches fuel)
      | .operator .fallThrough => return ⟨alternatives, c, .fallThrough⟩ :: (← branches fuel)
      | .operator .tryNext => return ⟨alternatives, c, .tryNext⟩ :: (← branches fuel)
      | t => unexpectedFor t "\";;\""

end

/-! ### Lines -/

/-- The fuel to read a source. Among the readers that call one another in turn, at most sixteen take
nothing away. Words that stand for other texts make the text longer. -/
def fuelFor (s : Source) : Nat :=
  let growth := Number.total (s.aliases.map fun known => known.2.length)
  16 * (s.text.length + 64) * (growth + 1)

/-- A source that starts with a text. -/
def sourceOf (dialect : Dialect) (documents : Array Word) (aliases : List (String × ByteText))
    (alternatives : Bool) (line : Nat) (text : List Char) : Source :=
  ⟨dialect, text, line, none, documents, [], aliases, [], none, alternatives⟩

/-- Read the commands of the next line. There may be none in it, and there is nothing behind the end
of the text. -/
def nextLine (s : Source) : Except SyntaxFault (Option Command × Source) :=
  list (fuelFor s) .line none
    { s with pushed := none, pending := [], replacing := [], replaceable := none }

end DesignAtlas.Shell.Reading
