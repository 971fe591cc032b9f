/-!
# Regular expressions

Regular expressions with groups and references to them, and how they match texts. Among the matches
that start as early as possible the longest one counts; inside it, what stands earlier in the
expression takes as much as it can.

* `Regex.endsAt` are the places where matches end that start at a place.
* `Regex.search` finds the first match.
-/

namespace DesignAtlas

/-- A regular expression. -/
inductive Regex where
  /-- The empty text. -/
  | empty
  /-- One character out of ranges, or out of none of them. -/
  | within (outside : Bool) (ranges : List (Char × Char))
  /-- The start of the text, or of a line in it. -/
  | start
  /-- The end of the text, or of a line in it. -/
  | stop
  /-- The start of the whole text. -/
  | textStart
  /-- The end of the whole text. -/
  | textStop
  /-- The start of a word. -/
  | wordStart
  /-- The end of a word. -/
  | wordStop
  /-- The start or the end of a word, or any other place. -/
  | wordEdge (isEdge : Bool)
  /-- A group with a number. -/
  | group (number : Nat) (inner : Regex)
  /-- What a group has matched. -/
  | reference (number : Nat)
  /-- One expression behind another one. -/
  | sequence (first second : Regex)
  /-- One of two expressions. -/
  | either (first second : Regex)
  /-- An expression any number of times. -/
  | star (inner : Regex)
  /-- An expression at least and at most so many times. -/
  | counted (inner : Regex) (least : Nat) (most : Option Nat)
  deriving Repr

namespace Regex

/-- What a text is looked at for. -/
structure Subject where
  /-- The characters. -/
  text : Array Char
  /-- Whether capital and small letters are the same. -/
  ignoresCase : Bool
  /-- Whether the start and the end of the text count as those of a line. -/
  atLineStart : Bool
  /-- Whether places behind and before the ends of lines are starts and ends as well. -/
  isMultiline : Bool

/-- The places that groups have matched. -/
abbrev Captures : Type := List (Nat × Nat × Nat)

/-- The end of a match with the places of groups. -/
abbrev Ending : Type := Nat × Captures

/-- Whether a character belongs to a word. -/
def isWordChar (c : Char) : Bool :=
  c.isAlphanum || c == '_'

namespace Subject

/-- Whether the character at a place belongs to a word. -/
def isWordAt (s : Subject) (place : Nat) : Bool :=
  (s.text[place]?).any isWordChar

/-- Whether the character before a place belongs to a word. -/
def isWordBefore (s : Subject) (place : Nat) : Bool :=
  place != 0 && s.isWordAt (place - 1)

/-- Whether two characters are the same. -/
def same (s : Subject) (a b : Char) : Bool :=
  a == b || (s.ignoresCase && a.toLower == b.toLower)

/-- Whether a character lies in ranges. -/
def isWithin (s : Subject) (ranges : List (Char × Char)) (c : Char) : Bool :=
  let inside (c : Char) : Bool := ranges.any fun r => decide (r.1 ≤ c) && decide (c ≤ r.2)
  inside c || (s.ignoresCase && (inside c.toLower || inside c.toUpper))

/-- Whether a character lies in ranges or outside them. Where every line counts for itself, the end
of a line does not lie outside of anything. -/
def fits (s : Subject) (outside : Bool) (ranges : List (Char × Char)) (c : Char) : Bool :=
  s.isWithin ranges c != outside && !(outside && s.isMultiline && c == '\n')

/-- The number of characters from a place on that lie in ranges or outside them. -/
def runLength (s : Subject) (outside : Bool) (ranges : List (Char × Char)) :
    (fuel : Nat) → (place : Nat) → Nat
  | 0, _ => 0
  | fuel + 1, place =>
    match s.text[place]? with
    | some c =>
      if s.fits outside ranges c then s.runLength outside ranges fuel (place + 1) + 1 else 0
    | none => 0

end Subject

/-- Keep the first of several endings at the same place, in the order from the last place to the
first. -/
def distinct (endings : List Ending) : List Ending :=
  match endings with
  | [] => []
  | [single] => [single]
  | endings =>
    let sorted := endings.mergeSort fun a b => decide (b.1 ≤ a.1)
    let rec keep : Option Nat → List Ending → List Ending
      | _, [] => []
      | last, e :: rest => if last = some e.1 then keep last rest else e :: keep (some e.1) rest
    keep none sorted

mutual

/-- The places where matches end that start at a place, the last one first. -/
def endsAt (s : Subject) : (fuel : Nat) → Regex → (place : Nat) → Captures → List Ending
  | 0, _, _, _ => []
  | fuel + 1, r, place, captures =>
    let here (holds : Bool) : List Ending := if holds then [(place, captures)] else []
    match r with
    | empty => here true
    | within outside ranges =>
      match s.text[place]? with
      | some c => if s.fits outside ranges c then [(place + 1, captures)] else []
      | none => []
    | start =>
      here ((place == 0 && s.atLineStart) ||
        (s.isMultiline && place != 0 && s.text[place - 1]? == some '\n'))
    | stop =>
      here (place == s.text.size || (s.isMultiline && s.text[place]? == some '\n'))
    | textStart => here (place == 0)
    | textStop => here (place == s.text.size)
    | wordStart => here (!s.isWordBefore place && s.isWordAt place)
    | wordStop => here (s.isWordBefore place && !s.isWordAt place)
    | wordEdge isEdge => here ((s.isWordBefore place != s.isWordAt place) == isEdge)
    | group number inner =>
      (endsAt s fuel inner place captures).map fun e =>
        (e.1, (number, place, e.1) :: e.2.filter (·.1 != number))
    | reference number =>
      match captures.lookup number with
      | some (first, last) =>
        let length := last - first
        let fits := decide (place + length ≤ s.text.size) &&
          (List.range length).all fun i =>
            match s.text[first + i]?, s.text[place + i]? with
            | some a, some b => s.same a b
            | _, _ => false
        if fits then [(place + length, captures)] else []
      | none => []
    | sequence first second =>
      distinct ((endsAt s fuel first place captures).flatMap fun e =>
        endsAt s fuel second e.1 e.2)
    | either first second =>
      distinct (endsAt s fuel first place captures ++ endsAt s fuel second place captures)
    | star (within outside ranges) =>
      let count := s.runLength outside ranges s.text.size place
      (List.range (count + 1)).reverse.map fun n => (place + n, captures)
    | star inner => distinct (starEnds s fuel inner [(place, captures)] [])
    | counted inner least most =>
      let repeated (n : Nat) (starts : List Ending) : List Ending :=
        (List.range n).foldl (fun starts _ =>
          distinct (starts.flatMap fun e => endsAt s fuel inner e.1 e.2)) starts
      let begun := repeated least [(place, captures)]
      match most with
      | none => distinct (begun.flatMap fun e => starEnds s fuel inner [e] [])
      | some most =>
        distinct ((List.range (most - least)).foldl (fun (found : List Ending × List Ending) _ =>
          let next := distinct (found.2.flatMap fun e => endsAt s fuel inner e.1 e.2)
          (next ++ found.1, next)) (begun, begun)).1

/-- The places where repetitions end that start at the ends of others. Every place is looked at
once. -/
def starEnds (s : Subject) : (fuel : Nat) → Regex → (pending found : List Ending) → List Ending
  | 0, _, _, found => found
  | _ + 1, _, [], found => found
  | fuel + 1, inner, e :: pending, found =>
    if found.any (·.1 == e.1) then starEnds s fuel inner pending found
    else
      let next := (endsAt s fuel inner e.1 e.2).filter fun f => f.1 != e.1
      starEnds s fuel inner (next ++ pending) (found ++ [e])

end

/-- The number of parts of an expression. -/
def size : Regex → Nat
  | group _ inner => inner.size + 1
  | sequence first second => first.size + second.size + 1
  | either first second => first.size + second.size + 1
  | star inner => inner.size + 1
  | counted inner _ _ => inner.size + 1
  | _ => 1

/-- The number of groups of an expression. -/
def groupCount : Regex → Nat
  | group _ inner => inner.groupCount + 1
  | sequence first second => first.groupCount + second.groupCount
  | either first second => first.groupCount + second.groupCount
  | star inner => inner.groupCount
  | counted inner _ _ => inner.groupCount
  | _ => 0

/-- The fuel to match an expression against a text. -/
def fuelFor (r : Regex) (s : Subject) : Nat :=
  (r.size + 1) * (s.text.size * s.text.size + s.text.size + 4)

/-- A match: where it starts and ends, and the places of groups. -/
structure Match where
  /-- The first place. -/
  first : Nat
  /-- The place behind the last one. -/
  last : Nat
  /-- The places of groups. -/
  captures : Captures
  deriving DecidableEq, Repr

/-- The longest match that starts at a place. -/
def matchAt? (r : Regex) (s : Subject) (place : Nat) : Option Match :=
  (endsAt s (r.fuelFor s) r place []).head?.map fun e => ⟨place, e.1, e.2⟩

/-- The first match from a place on. -/
def searchFrom (r : Regex) (s : Subject) : (fuel : Nat) → (place : Nat) → Option Match
  | 0, _ => none
  | fuel + 1, place =>
    match r.matchAt? s place with
    | some m => some m
    | none => if place < s.text.size then r.searchFrom s fuel (place + 1) else none

/-- The first match from a place on. -/
def search (r : Regex) (s : Subject) (place : Nat) : Option Match :=
  r.searchFrom s (s.text.size + 1 - place) place

/-- The text that a group has matched. -/
def Match.group? (m : Match) (s : Subject) (number : Nat) : Option (List Char) :=
  let found := if number = 0 then some (m.first, m.last) else m.captures.lookup number
  found.map fun (first, last) => (s.text.extract first last).toList

end Regex

end DesignAtlas
