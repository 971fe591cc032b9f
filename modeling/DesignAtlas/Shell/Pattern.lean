import DesignAtlas.Number.Total
import DesignAtlas.Shell.Syntax

/-!
# Patterns

A pattern stands for texts of bytes: `*` for any text, `?` for any byte, and brackets for one of
several bytes. In the rich dialect, there can be alternatives in parentheses. A quoted character
stands for itself only, and so does a character behind a backslash.

* `Pattern.ofChars` reads a pattern, and `matchesText` tells whether a text is of its form.
* `rests` are the texts that are left when a pattern has matched the start of a text.
* `trimStart`, `trimEnd` and `replace` take a matching part away or put another one there.
-/

namespace DesignAtlas.Shell

/-- A character that is special in a pattern unless it is quoted. -/
structure PatternChar where
  /-- The character. -/
  char : Char
  /-- Whether it is quoted. -/
  quoted : Bool
  deriving DecidableEq, Repr

/-- How often alternatives can stand. -/
inductive Repetition where
  /-- Once. -/
  | once
  /-- Once or not at all. -/
  | optional
  /-- Any number of times. -/
  | any
  /-- At least once. -/
  | some
  /-- A text that is none of them. -/
  | none
  deriving DecidableEq, Repr

/-- What an item of a pattern stands for. -/
inductive PatternItem where
  /-- The character itself. -/
  | exactly (c : Char)
  /-- Any character. -/
  | one
  /-- Any text. -/
  | many
  /-- A character within one of several ranges, or outside all of them. -/
  | within (outside : Bool) (ranges : List (Char × Char))
  /-- One of several patterns. -/
  | alternatives (how : Repetition) (options : List (List PatternItem))
  deriving Repr

/-- A pattern, item by item. -/
abbrev Pattern : Type := List PatternItem

namespace Pattern

/-! ### Reading -/

/-- The classes of bytes that brackets can name, as ranges. -/
def classes : List (String × List (Char × Char)) :=
  [("alnum", [('0', '9'), ('A', 'Z'), ('a', 'z')]), ("alpha", [('A', 'Z'), ('a', 'z')]),
   ("blank", [(' ', ' '), ('\t', '\t')]), ("cntrl", [('\x00', '\x1f'), ('\x7f', '\x7f')]),
   ("digit", [('0', '9')]), ("graph", [('!', '~')]), ("lower", [('a', 'z')]),
   ("print", [(' ', '~')]),
   ("punct", [('!', '/'), (':', '@'), ('[', '\x60'), ('\x7b', '~')]),
   ("space", [('\t', '\r'), (' ', ' ')]), ("upper", [('A', 'Z')]),
   ("xdigit", [('0', '9'), ('A', 'F'), ('a', 'f')])]

/-- The class that is named behind a bracket, and how much text its name takes. -/
def class? (text : List PatternChar) : Option (List (Char × Char) × Nat) :=
  classes.findSome? fun known =>
    let name := (":" ++ known.1 ++ ":]").toList.map fun c => PatternChar.mk c false
    if name.isPrefixOf text then .some (known.2, name.length) else .none

/-- A character with what it means: a backslash that is not quoted quotes the next one. -/
def unescaped : List PatternChar → List PatternChar
  | ⟨'\\', false⟩ :: c :: rest => ⟨c.char, true⟩ :: unescaped rest
  | c :: rest => c :: unescaped rest
  | [] => []

/-- Read the ranges of brackets up to the bracket that closes them. A closing bracket in the first
place stands for itself. -/
def ranges? (isFirst : Bool) (text : List PatternChar) :
    Option (List (Char × Char) × List PatternChar) :=
  match text with
  | [] => .none
  | c :: rest =>
    if c = ⟨']', false⟩ ∧ isFirst = false then .some ([], rest)
    else
      match (if c = ⟨'[', false⟩ then class? rest else .none), rest with
      | .some (found, length), rest => do
        let (others, behind) ← ranges? false (rest.drop length)
        return (found ++ others, behind)
      | .none, ⟨'-', false⟩ :: last :: rest =>
        if last = ⟨']', false⟩ then .some ([(c.char, c.char), ('-', '-')], rest)
        else do
          let (others, behind) ← ranges? false rest
          return ((c.char, last.char) :: others, behind)
      | .none, rest => do
        let (others, behind) ← ranges? false rest
        return ((c.char, c.char) :: others, behind)
termination_by text.length

/-- Read brackets behind the bracket that opens them. -/
def brackets? (d : Dialect) (text : List PatternChar) :
    Option (PatternItem × List PatternChar) :=
  let outside (rest : List PatternChar) : Option (PatternItem × List PatternChar) :=
    (ranges? true rest).map fun found => (.within true found.1, found.2)
  match text, d with
  | ⟨'!', false⟩ :: rest, _ => outside rest
  | ⟨'^', false⟩ :: rest, .rich => outside rest
  | text, _ => (ranges? true text).map fun found => (.within false found.1, found.2)

/-- The repetition that a character announces before a parenthesis. -/
def repetition? : Char → Option Repetition
  | '@' => .some .once
  | '?' => .some .optional
  | '*' => .some .any
  | '+' => .some .some
  | '!' => .some .none
  | _ => .none

/-- The alternatives in parentheses, of which the first has been read, and the text behind the one
that closes them. -/
def splitAlternatives : (depth : Nat) → List PatternChar →
    Option (List (List PatternChar) × List PatternChar)
  | _, [] => .none
  | depth, c :: rest =>
    let added (found : List (List PatternChar) × List PatternChar) :
        List (List PatternChar) × List PatternChar :=
      match found.1 with
      | first :: others => ((c :: first) :: others, found.2)
      | [] => ([[c]], found.2)
    if c = ⟨'(', false⟩ then (splitAlternatives (depth + 1) rest).map added
    else if c = ⟨')', false⟩ then
      match depth with
      | 0 => .some ([[]], rest)
      | depth + 1 => (splitAlternatives depth rest).map added
    else if c = ⟨'|', false⟩ ∧ depth = 0 then
      (splitAlternatives 0 rest).map fun found => ([] :: found.1, found.2)
    else (splitAlternatives depth rest).map added

/-- The pattern that characters make. A bracket that is never closed stands for itself. -/
def ofUnescaped (d : Dialect) : (fuel : Nat) → List PatternChar → Pattern
  | 0, _ => []
  | _ + 1, [] => []
  | fuel + 1, ⟨c, quoted⟩ :: rest =>
    let alternatives? : Option (Repetition × List (List PatternChar) × List PatternChar) :=
      match d, quoted, repetition? c, rest with
      | .rich, false, .some how, ⟨'(', false⟩ :: rest =>
        (splitAlternatives 0 rest).map fun found => (how, found.1, found.2)
      | _, _, _, _ => .none
    match alternatives?, quoted, c with
    | .some (how, options, behind), _, _ =>
      .alternatives how (options.map (ofUnescaped d fuel)) :: ofUnescaped d fuel behind
    | .none, false, '*' => .many :: ofUnescaped d fuel rest
    | .none, false, '?' => .one :: ofUnescaped d fuel rest
    | .none, false, '[' =>
      match brackets? d rest with
      | .some (item, behind) => item :: ofUnescaped d fuel behind
      | .none => .exactly '[' :: ofUnescaped d fuel rest
    | .none, _, c => .exactly c :: ofUnescaped d fuel rest

/-- The pattern that characters make, with backslashes that quote. -/
def ofChars (d : Dialect) (text : List PatternChar) : Pattern :=
  ofUnescaped d (text.length + 1) (unescaped text)

/-- Whether a pattern stands for more than one text. -/
def isOpen (p : Pattern) : Bool :=
  p.any fun item =>
    match item with
    | .exactly _ => false
    | _ => true

/-! ### Matching -/

/-- Whether an item that stands for one character stands for a given one. -/
def itemMatches : PatternItem → Char → Bool
  | .exactly wanted, c => wanted == c
  | .one, _ => true
  | .within outside ranges, c =>
    (ranges.any fun range => decide (range.1 ≤ c) && decide (c ≤ range.2)) != outside
  | _, _ => false

/-- All ends of a text, the longest one first. -/
def tails : List Char → List (List Char)
  | [] => [[]]
  | c :: rest => (c :: rest) :: tails rest

/-- Ends of one text without repetitions, the longest one first. -/
def distinct (rests : List (List Char)) : List (List Char) :=
  match rests with
  | [] => []
  | [single] => [single]
  | rests =>
    let keyed := (rests.map fun r => (r.length, r)).mergeSort fun a b => decide (b.1 ≤ a.1)
    let rec keep : Option Nat → List (Nat × List Char) → List (List Char)
      | _, [] => []
      | last, (n, r) :: others => if last = .some n then keep last others else r :: keep n others
    keep .none keyed

mutual

/-- What can be left of one of several texts when an item has matched its start. -/
def itemRests : (fuel : Nat) → PatternItem → List (List Char) → List (List Char)
  | 0, _, _ => []
  | fuel + 1, item, starts =>
    match item with
    | .many =>
      match starts with
      | longest :: _ => tails longest
      | [] => []
    | .alternatives how options =>
      let once (starts : List (List Char)) : List (List Char) :=
        distinct (options.flatMap fun p => rests fuel p starts)
      match how with
      | .once => once starts
      | .optional => distinct (starts ++ once starts)
      | .any => closure fuel options starts
      | .some => closure fuel options (once starts)
      | .none =>
        distinct (starts.flatMap fun start =>
          (tails start).filter fun rest =>
            !(once [start]).any fun found => found.length == rest.length)
    | item =>
      starts.filterMap fun start =>
        match start with
        | c :: rest => if itemMatches item c then .some rest else .none
        | [] => .none

/-- What can be left of one of several texts when a pattern has matched its start. -/
def rests : (fuel : Nat) → Pattern → List (List Char) → List (List Char)
  | 0, _, _ => []
  | _ + 1, [], starts => starts
  | _ + 1, _, [] => []
  | fuel + 1, item :: p, starts => rests fuel p (itemRests fuel item starts)

/-- What can be left of one of several texts when options have matched any number of times. -/
def closure : (fuel : Nat) → List Pattern → List (List Char) → List (List Char)
  | 0, _, starts => starts
  | fuel + 1, options, starts =>
    let more := distinct (starts ++ options.flatMap fun p => rests fuel p starts)
    if more.length = starts.length then starts else closure fuel options more

end

/-- The fuel to match a pattern. -/
def fuelFor (p : Pattern) (text : List Char) : Nat :=
  let rec size : (depth : Nat) → Pattern → Nat
    | 0, _ => 0
    | depth + 1, p =>
      Number.total (p.map fun item =>
        match item with
        | .alternatives _ options => 2 + Number.total (options.map (size depth))
        | _ => 2)
  2 * (size 100 p + 2) * (text.length + 2)

/-- What can be left of a text when a pattern has matched its start, the longest rest first. -/
def restsOf (p : Pattern) (text : List Char) : List (List Char) :=
  rests (fuelFor p text) p [text]

/-- Whether a whole text is of the form of a pattern. -/
def matchesText (p : Pattern) (text : List Char) : Bool :=
  (p.restsOf text).any List.isEmpty

/-! ### Taking parts away -/

/-- The text without the shortest or the longest beginning that matches. -/
def trimStart (p : Pattern) (longest : Bool) (text : List Char) : List Char :=
  let rests := p.restsOf text
  (if longest then rests.getLast? else rests.head?).getD text

/-- The text without the shortest or the longest end that matches. -/
def trimEnd (p : Pattern) (longest : Bool) (text : List Char) : List Char :=
  let lengths := List.range (text.length + 1)
  let order := if longest then lengths else lengths.reverse
  match order.find? fun n => p.matchesText (text.drop n) with
  | .some n => text.take n
  | .none => text

/-- A text with another text in the place of what matches. The longest match counts. -/
def replace (p : Pattern) (every : Bool) (other : List Char → List Char) (text : List Char) :
    List Char :=
  match text with
  | [] => []
  | c :: rest =>
    match (p.restsOf (c :: rest)).getLast? with
    | .some behind =>
      if behind.length < rest.length + 1 then
        let matched := (c :: rest).take (rest.length + 1 - behind.length)
        other matched ++ if every then replace p every other behind else behind
      else c :: replace p every other rest
    | .none => c :: replace p every other rest
termination_by text.length

end Pattern

end DesignAtlas.Shell
