import DesignAtlas.Regex.Basic

/-!
# Reading regular expressions

Regular expressions are written in two ways. In the basic way a backslash makes parentheses, braces
and a few other characters special; in the extended way it takes that meaning from them.

* `Regex.ofText` reads an expression, or says what is wrong with it.
-/

namespace DesignAtlas.Regex

/-- The way in which an expression is written. -/
inductive Style where
  /-- Special characters stand behind backslashes. -/
  | basic
  /-- Special characters stand alone. -/
  | extended
  /-- Special characters stand alone, and where they have no meaning they stand for themselves. -/
  | lenient
  deriving DecidableEq, Repr

/-- Whether special characters stand alone. -/
def Style.isExtended (style : Style) : Bool :=
  style != .basic

/-- What is wrong with an expression. -/
inductive ReadFault where
  /-- A group is not closed. -/
  | openGroup
  /-- A group is closed that was not opened. -/
  | closedGroup
  /-- Brackets are not closed. -/
  | openBracket
  /-- Braces are not closed. -/
  | openBrace
  /-- There are no numbers in braces. -/
  | badBrace
  /-- Nothing stands before a repetition. -/
  | noOperand
  /-- The ends of a range are in the wrong order. -/
  | badRange
  /-- A class of characters is not known. -/
  | badClass
  /-- A group that is referred to is not there. -/
  | badReference
  /-- Nothing stands behind a backslash. -/
  | openBackslash
  deriving DecidableEq, Repr

/-- The wording of what is wrong with an expression. -/
def ReadFault.message : ReadFault → String
  | openGroup => "Unmatched ( or \\("
  | closedGroup => "Unmatched ) or \\)"
  | openBracket => "Unmatched [, [^, [:, [., or [="
  | openBrace => "Unmatched \\\x7b"
  | badBrace => "Invalid content of \\\x7b\\\x7d"
  | noOperand => "Invalid preceding regular expression"
  | badRange => "Invalid range end"
  | badClass => "Invalid character class name"
  | badReference => "Invalid back reference"
  | openBackslash => "Trailing backslash"

/-- The classes of characters that brackets can name, as ranges. -/
def classes : List (String × List (Char × Char)) :=
  [("alnum", [('0', '9'), ('A', 'Z'), ('a', 'z')]), ("alpha", [('A', 'Z'), ('a', 'z')]),
   ("blank", [(' ', ' '), ('\t', '\t')]), ("cntrl", [('\x00', '\x1f'), ('\x7f', '\x7f')]),
   ("digit", [('0', '9')]), ("graph", [('!', '~')]), ("lower", [('a', 'z')]),
   ("print", [(' ', '~')]),
   ("punct", [('!', '/'), (':', '@'), ('[', '\x60'), ('\x7b', '~')]),
   ("space", [('\t', '\r'), (' ', ' ')]), ("upper", [('A', 'Z')]),
   ("xdigit", [('0', '9'), ('A', 'F'), ('a', 'f')])]

/-- The characters of words. -/
def wordRanges : List (Char × Char) :=
  [('0', '9'), ('A', 'Z'), ('a', 'z'), ('_', '_')]

/-- The characters that are gaps. -/
def gapRanges : List (Char × Char) :=
  [('\t', '\r'), (' ', ' ')]

/-- A reader of expressions: the text that is left and the number of groups so far. -/
abbrev R (α : Type) : Type :=
  StateT (List Char × Nat) (Except ReadFault) α

/-- The text that is left. -/
def left : R (List Char) := return (← get).1

/-- Go on with a given text. -/
def goOn (text : List Char) : R Unit :=
  modify fun s => (text, s.2)

/-- Split a text before a given one. -/
def splitBefore (wanted : List Char) : List Char → Option (List Char × List Char)
  | [] => if wanted.isEmpty then some ([], []) else none
  | c :: rest =>
    if wanted.isPrefixOf (c :: rest) then some ([], (c :: rest).drop wanted.length)
    else (splitBefore wanted rest).map fun found => (c :: found.1, found.2)

/-- Read one end of a range in brackets. -/
def bracketItem : R (Sum (List (Char × Char)) Char) := do
  match ← left with
  | '[' :: ':' :: rest =>
    match splitBefore [':', ']'] rest with
    | some (name, behind) =>
      match classes.lookup (String.ofList name) with
      | some ranges =>
        goOn behind
        return .inl ranges
      | none => throw .badClass
    | none => throw .openBracket
  | '[' :: '=' :: c :: '=' :: ']' :: rest =>
    goOn rest
    return .inr c
  | '[' :: '.' :: c :: '.' :: ']' :: rest =>
    goOn rest
    return .inr c
  | c :: rest =>
    goOn rest
    return .inr c
  | [] => throw .openBracket

/-- Read the ranges of brackets up to the bracket that closes them. -/
def ranges : (fuel : Nat) → (isFirst : Bool) → R (List (Char × Char))
  | 0, _ => throw .openBracket
  | fuel + 1, isFirst => do
    match ← left, isFirst with
    | ']' :: rest, false =>
      goOn rest
      return []
    | [], _ => throw .openBracket
    | _, _ =>
      match ← bracketItem with
      | .inl found => return found ++ (← ranges fuel false)
      | .inr c =>
        match ← left with
        | '-' :: last :: rest =>
          if last = ']' then return (c, c) :: (← ranges fuel false)
          else
            goOn (last :: rest)
            match ← bracketItem with
            | .inl _ => throw .badRange
            | .inr last =>
              if last < c then throw .badRange
              return (c, last) :: (← ranges fuel false)
        | _ => return (c, c) :: (← ranges fuel false)

/-- Read brackets behind the one that opens them. -/
def brackets : R Regex := do
  let text ← left
  match text with
  | '^' :: rest =>
    goOn rest
    return .within true (← ranges (text.length + 1) true)
  | _ => return .within false (← ranges (text.length + 1) true)

/-- The numbers between braces and the text behind the closing brace. -/
def bounds? (closing : List Char) (text : List Char) :
    Option (Nat × Option Nat × List Char) :=
  let digits := text.takeWhile Char.isDigit
  let number (digits : List Char) : Nat := digits.foldl (fun n c => n * 10 + (c.toNat - 48)) 0
  let behind := text.drop digits.length
  if digits.isEmpty ∧ behind.head? ≠ some ',' then none
  else if closing.isPrefixOf behind then
    some (number digits, some (number digits), behind.drop closing.length)
  else
    match behind with
    | ',' :: rest =>
      let most := rest.takeWhile Char.isDigit
      let behind := rest.drop most.length
      if closing.isPrefixOf behind then
        some (number digits, if most.isEmpty then none else some (number most),
          behind.drop closing.length)
      else none
    | _ => none

/-- Read the repetitions behind an expression. -/
def repetitions (style : Style) : (fuel : Nat) → Regex → R Regex
  | 0, r => return r
  | fuel + 1, r => do
    match style.isExtended, ← left with
    | _, '*' :: rest =>
      goOn rest
      repetitions style fuel (.star r)
    | true, '+' :: rest =>
      goOn rest
      repetitions style fuel (.counted r 1 none)
    | true, '?' :: rest =>
      goOn rest
      repetitions style fuel (.counted r 0 (some 1))
    | false, '\\' :: '+' :: rest =>
      goOn rest
      repetitions style fuel (.counted r 1 none)
    | false, '\\' :: '?' :: rest =>
      goOn rest
      repetitions style fuel (.counted r 0 (some 1))
    | true, '\x7b' :: rest =>
      match bounds? ['\x7d'] rest with
      | some (least, most, behind) =>
        if most.any (· < least) then throw .badBrace
        goOn behind
        repetitions style fuel (.counted r least most)
      | none =>
        if style = .lenient then return r
        else if rest.contains '\x7d' then throw .badBrace
        else throw .openBrace
    | false, '\\' :: '\x7b' :: rest =>
      match bounds? ['\\', '\x7d'] rest with
      | some (least, most, behind) =>
        if most.any (· < least) then throw .badBrace
        goOn behind
        repetitions style fuel (.counted r least most)
      | none =>
        if (splitBefore ['\\', '\x7d'] rest).isSome then throw .badBrace else throw .openBrace
    | _, _ => return r

/-- The meaning of a character behind a backslash, apart from groups. -/
def escapeOf? : Char → Option Regex
  | 'w' => some (.within false wordRanges)
  | 'W' => some (.within true wordRanges)
  | 's' => some (.within false gapRanges)
  | 'S' => some (.within true gapRanges)
  | '<' => some .wordStart
  | '>' => some .wordStop
  | 'b' => some (.wordEdge true)
  | 'B' => some (.wordEdge false)
  | '\x60' => some .textStart
  | '\x27' => some .textStop
  | _ => none

/-- Whether an alternative ends at the start of a text. -/
def endsAlternative (style : Style) (depth : Nat) (text : List Char) : Bool :=
  match style.isExtended, text with
  | _, [] => true
  | true, '|' :: _ => true
  | true, ')' :: _ => depth != 0
  | false, '\\' :: '|' :: _ => true
  | false, '\\' :: ')' :: _ => true
  | _, _ => false

/-- The character itself. -/
def exactly (c : Char) : Regex :=
  .within false [(c, c)]

mutual

/-- Read alternatives. -/
def alternatives (style : Style) : (fuel : Nat) → (depth : Nat) → R Regex
  | 0, _ => throw .openGroup
  | fuel + 1, depth => do
    let first ← branch style fuel depth true
    match style.isExtended, ← left with
    | true, '|' :: rest =>
      goOn rest
      return .either first (← alternatives style fuel depth)
    | false, '\\' :: '|' :: rest =>
      goOn rest
      return .either first (← alternatives style fuel depth)
    | _, _ => return first

/-- Read what stands one behind the other. -/
def branch (style : Style) : (fuel : Nat) → (depth : Nat) → (isFirst : Bool) → R Regex
  | 0, _, _ => throw .openGroup
  | fuel + 1, depth, isFirst => do
    let text ← left
    if endsAlternative style depth text then return .empty
    let part ← atom style fuel depth isFirst
    let whole ←
      match part, style, ← left with
      -- A star behind the start of a line stands for itself in the basic way.
      | .start, .basic, _ => pure part
      | .start, .extended, c :: _ =>
        if ['*', '+', '?', '\x7b'].contains c then throw .noOperand else pure part
      | part, style, _ => repetitions style text.length part
    let isStillFirst := isFirst && (part matches .start)
    return .sequence whole (← branch style fuel depth isStillFirst)

/-- Read a single part. -/
def atom (style : Style) : (fuel : Nat) → (depth : Nat) → (isFirst : Bool) → R Regex
  | 0, _, _ => throw .openGroup
  | fuel + 1, depth, isFirst => do
    let text ← left
    let group (rest : List Char) (closing : List Char) : R Regex := do
      let number := (← get).2 + 1
      set (rest, number)
      let inner ← alternatives style fuel (depth + 1)
      let behind ← left
      if closing.isPrefixOf behind then
        goOn (behind.drop closing.length)
        return .group number inner
      else throw .openGroup
    let star (rest : List Char) : R Regex := do
      -- A repetition of nothing is nothing.
      if style = .lenient ∧ isFirst then
        goOn rest
        return .empty
      else throw .noOperand
    match style.isExtended, text with
    | _, [] => return .empty
    | _, '.' :: rest =>
      goOn rest
      return .within true []
    | _, '[' :: rest =>
      goOn rest
      brackets
    | true, '(' :: rest => group rest [')']
    | false, '\\' :: '(' :: rest => group rest ['\\', ')']
    | false, '\\' :: ')' :: _ => throw .closedGroup
    | true, ')' :: rest =>
      if style = .lenient then
        goOn rest
        return exactly ')'
      else throw .closedGroup
    | true, '\x7b' :: rest =>
      if style = .lenient then
        goOn rest
        return exactly '\x7b'
      else throw .noOperand
    | true, '^' :: rest =>
      goOn rest
      return .start
    | true, '$' :: rest =>
      goOn rest
      return .stop
    | false, '^' :: rest =>
      goOn rest
      return if isFirst then .start else exactly '^'
    | false, '$' :: rest =>
      goOn rest
      let isLast := endsAlternative .basic depth rest
      return if isLast then .stop else exactly '$'
    | false, '*' :: rest =>
      goOn rest
      if isFirst then return exactly '*' else throw .noOperand
    | true, '*' :: rest => star rest
    | true, '+' :: rest => star rest
    | true, '?' :: rest => star rest
    | _, ['\\'] => throw .openBackslash
    | _, '\\' :: c :: rest =>
      goOn rest
      if c.isDigit ∧ c ≠ '0' then
        let number := c.toNat - 48
        if (← get).2 < number then throw .badReference
        return .reference number
      match escapeOf? c with
      | some r => return r
      | none => return exactly c
    | _, c :: rest =>
      goOn rest
      return exactly c

end

/-- Read an expression. -/
def ofText (style : Style) (text : List Char) : Except ReadFault Regex := do
  let read : R Regex := do
    let r ← alternatives style (4 * (text.length + 2)) 0
    match ← left with
    | [] => return r
    | _ => throw .closedGroup
  return (← read.run (text, 0)).1

end DesignAtlas.Regex
