import DesignAtlas.Shell.Braces
import DesignAtlas.Shell.Calculation
import DesignAtlas.Shell.Escape
import DesignAtlas.Shell.Glob
import DesignAtlas.Shell.Quoting

/-!
# Expansion

What words stand for. Parameters, outputs and numbers are put in; what comes from outside quotes is
divided into fields; and a field that is a pattern becomes the names of the files it matches.

* `fieldsOf` expands the words of a command, `textOf` a word that stays one text, and `patternOf` a
  word that is used as a pattern.
-/

namespace DesignAtlas.Shell

/-- Where a tilde stands for a directory. -/
inductive TildePlace where
  /-- Nowhere. -/
  | nowhere
  /-- At the start of a word. -/
  | start
  /-- At the start of a word and behind colons. -/
  | everywhere
  deriving DecidableEq, Repr

/-- How a word is expanded. -/
structure Manner where
  /-- Whether the word becomes fields. -/
  divides : Bool
  /-- Where a tilde stands for a directory. -/
  tilde : TildePlace
  deriving DecidableEq, Repr

namespace Manner

/-- The manner of words that become fields. -/
def fields : Manner := ⟨true, .start⟩

/-- The manner of words that stay one text. -/
def text : Manner := ⟨false, .start⟩

/-- The manner of values that are assigned. -/
def assigned : Manner := ⟨false, .everywhere⟩

/-- The manner of texts in which only parameters, outputs and numbers are put in. -/
def verbatim : Manner := ⟨false, .nowhere⟩

end Manner

/-! ### Tildes -/

/-- The directory that a name behind a tilde stands for. -/
def Session.homeOf? (s : Session) (name : ByteText) : Option ByteText :=
  match name, s.dialect with
  | "", _ => s.assigned? "HOME"
  | "root", _ => some "/root"
  | "daemon", _ => some "/usr/sbin"
  | "bin", _ => some "/bin"
  | "nobody", _ => some "/nonexistent"
  | "+", .rich => s.assigned? "PWD"
  | "-", .rich => s.assigned? "OLDPWD"
  | _, _ => none

/-- Put in directories for tildes in the literal text at the start of a word. -/
def Session.withHomes (s : Session) (place : TildePlace) (isLast : Bool) :
    (fuel : Nat) → (atStart : Bool) → List Char → Word
  | 0, _, text => Word.ofText (String.ofList text)
  | fuel + 1, true, '~' :: rest =>
    let stops (c : Char) : Bool := c == '/' || (place == .everywhere && c == ':')
    let name := rest.takeWhile fun c => !stops c
    let behind := rest.drop name.length
    match s.homeOf? (String.ofList name) with
    | some home =>
      if behind.isEmpty && !isLast then Word.ofText (String.ofList ('~' :: rest))
      else .mark :: .literal home true :: s.withHomes place isLast fuel false behind
    | none => Word.withText "~" false (s.withHomes place isLast fuel false rest)
  | fuel + 1, _, text =>
    match place with
    | .everywhere =>
      let before := text.takeWhile (· != ':')
      match text.drop before.length with
      | _ :: rest =>
        Word.withText (String.ofList (before ++ [':'])) false
          (s.withHomes place isLast fuel true rest)
      | [] => Word.ofText (String.ofList text)
    | _ => Word.ofText (String.ofList text)

/-- Put in directories for the tildes of a word. -/
def Session.homesIn (s : Session) (place : TildePlace) : (atStart : Bool) → Word → Word
  | _, [] => []
  | atStart, .literal text false :: rest =>
    if place = .nowhere ∨ text.toList.contains '~' = false then
      .literal text false :: s.homesIn place (text.toList.getLast? == some ':') rest
    else
      s.withHomes place rest.isEmpty (text.length + 1) atStart text.toList ++
        s.homesIn place (text.toList.getLast? == some ':') rest
  | _, piece :: rest =>
    if place = .everywhere then piece :: s.homesIn place false rest else piece :: rest

/-! ### Values -/

/-- The atoms of a value. -/
def valueAtoms (quoted : Bool) (text : ByteText) : List Atom :=
  text.toList.map (fun c => .char c quoted (!quoted)) ++ if quoted then [] else [.edge]

/-- What divides several values. In the rich dialect it is the first separator, if that is no
blank. -/
def atomBetween (d : Dialect) (m : Manner) (quoted : Bool) (between : ByteText) : Atom :=
  match between.toList.head? with
  | some c =>
    if d = .rich && m.divides && !quoted && !Separators.isGap c then .char c false true
    else .gap quoted
  | none => .gap quoted

/-- The atoms of what a parameter stands for. -/
def foundAtoms (d : Dialect) (m : Manner) (quoted : Bool) (between : ByteText) :
    Found → List Atom
  | .one value => value.elim [] (valueAtoms quoted)
  | .several texts joined =>
    if joined && (quoted || !m.divides) then valueAtoms quoted (between.intercalate texts)
    else
      [atomBetween d m quoted between].intercalate (texts.map fun t =>
        (if quoted then [.mark] else []) ++ valueAtoms quoted t)

namespace Found

/-- Change the texts that a parameter stands for. -/
def map (f : ByteText → ByteText) : Found → Found
  | one value => one (value.map f)
  | several texts joined => several (texts.map f) joined

/-- Whether a parameter stands for something. The empty text counts as nothing if the use says
so. -/
def isUsable (d : Dialect) (between : ByteText) (orEmpty : Bool) : Found → Bool
  | one value => value.any fun t => !(orEmpty && t.isEmpty)
  | several texts _ =>
    (d == .plain || !texts.isEmpty) && !(orEmpty && (between.intercalate texts).isEmpty)

/-- What is left when a pattern takes a part away. The plain dialect looks at the first or last of
several texts only. -/
def trimmed (d : Dialect) (part : Trim) (p : Pattern) (f : Found) : Found :=
  let atStart := part = .shortestStart ∨ part = .longestStart
  let trim (t : ByteText) : ByteText :=
    String.ofList <|
      match part with
      | .shortestStart => p.trimStart false t.toList
      | .longestStart => p.trimStart true t.toList
      | .shortestEnd => p.trimEnd false t.toList
      | .longestEnd => p.trimEnd true t.toList
  match d, f with
  | .plain, several (first :: rest) joined =>
    if atStart then several (trim first :: rest) joined
    else several ((first :: rest).dropLast ++ ((first :: rest).getLast?.map trim).toList) joined
  | _, f => f.map trim

end Found

/-- The characters between values that are put together without quotes. -/
def Session.between (s : Session) : ByteText :=
  match s.dialect with
  | .plain => s.separators.between
  | .rich => " "

/-- The text of the output of commands, without the ends of lines behind it. -/
def outputValue (text : ByteText) : ByteText :=
  String.ofList ((text.toList.filter (· != '\x00')).reverse.dropWhile (· == '\n')).reverse

/-- The part of a text or a list from a place on, of a given length. Places and lengths below zero
count from the end. -/
def slicedFrom {α : Type} (items : List α) (start : Int) (length : Option Int) :
    Option (List α) :=
  let size : Int := items.length
  let first := if start < 0 then size + start else start
  if first < 0 ∨ size < first then some []
  else
    match length with
    | none => some (items.drop first.toNat)
    | some n =>
      let last := if n < 0 then size + n else min size (first + n)
      if last < first then (if n < 0 then none else some [])
      else some ((items.drop first.toNat).take (last - first).toNat)

/-- A text in the form that a letter stands for. -/
def formedText (letter : Char) (t : ByteText) : ByteText :=
  match letter with
  | 'Q' => quotedRich t
  | 'U' => recased .upper t
  | 'L' => recased .lower t
  | 'u' =>
    match t.toList with
    | c :: rest => String.ofList (c.toUpper :: rest)
    | [] => ""
  | 'E' => (escaped .dollar t.toList).text
  | _ => t

/-- A text with letters in another case, where they match a pattern. -/
def recasedWhere (change : Recasing) (all : Bool) (p : Pattern) (t : ByteText) : ByteText :=
  let changed (c : Char) : ByteText :=
    if p.isEmpty || p.matchesText [c] then recased change c.toString else c.toString
  match t.toList, all with
  | chars, true => String.join (chars.map changed)
  | c :: rest, false => changed c ++ String.ofList rest
  | [], false => ""

/-- What a replaced part becomes. An ampersand outside quotes stands for the part itself. -/
def replacement (other : List PatternChar) (part : List Char) : List Char :=
  (Pattern.unescaped other).flatMap fun c => if c = ⟨'&', false⟩ then part else [c.char]

/-- A text with another text in the place of what a pattern matches. -/
def replacedText (place : Place) (p : Pattern) (other : List PatternChar) (t : ByteText) :
    ByteText :=
  let text := t.toList
  String.ofList <|
    match place with
    | .first => p.replace false (replacement other) text
    | .every => p.replace true (replacement other) text
    | .start =>
      match (p.restsOf text).getLast? with
      | some rest => replacement other (text.take (text.length - rest.length)) ++ rest
      | none => text
    | .ending =>
      let trimmed := p.trimEnd true text
      if trimmed.length < text.length ∨ p.matchesText [] then
        trimmed ++ replacement other (text.drop trimmed.length)
      else text

/-- Complain that a parameter is not set, and end the shell. -/
def refuseUnset {α : Type} (name : String) : Run α := do
  match (← get).dialect with
  | .plain => giveUp (name ++ ": parameter not set")
  | .rich =>
    say ((if isName name then name else "$" ++ name) ++ ": unbound variable")
    exitWith 1

/-- The number of the first descriptor that leads to the output of commands put in as a file. -/
def processDescriptor : Nat := 63

/-! ### Words -/

section

variable (capture : Command → Run ByteText)

mutual

/-- Expand a word. -/
def wordAtoms : (fuel : Nat) → Manner → (isInner : Bool) → Word → Run (List Atom)
  | 0, _, _, _ => throw .exhausted
  | fuel + 1, m, isInner, w => do
    let w := (← get).homesIn m.tilde true w
    return (← w.mapM (pieceAtoms fuel m isInner)).flatten

/-- The text of a word that is not divided. -/
def wordText : (fuel : Nat) → Manner → Word → Run ByteText
  | 0, _, _ => throw .exhausted
  | fuel + 1, m, w => do
    let atoms ← wordAtoms fuel m false w
    return textOfAtoms (← get).between atoms

/-- The characters of a word that is used as a pattern. -/
def wordChars : (fuel : Nat) → Word → Run (List PatternChar)
  | 0, _ => throw .exhausted
  | fuel + 1, w => do
    let atoms ← wordAtoms fuel .text false w
    return charsOf (← get).between atoms

/-- Expand a piece of a word. The text of a word inside braces can be divided. -/
def pieceAtoms : (fuel : Nat) → Manner → (isInner : Bool) → Piece → Run (List Atom)
  | 0, _, _, _ => throw .exhausted
  | fuel + 1, m, isInner, piece => do
    match piece with
    | .literal text quoted => return text.toList.map fun c => .char c quoted (isInner && !quoted)
    | .mark => return [.mark]
    | .parameter name key use quoted => parameterAtoms fuel m name key quoted use
    | .output commands quoted => return valueAtoms quoted (outputValue (← capture commands))
    | .number expression quoted =>
      let n ← calculate (← wordText fuel .verbatim expression)
      return valueAtoms quoted (Int.repr n)
    | .process reads commands =>
      let text ← if reads then capture commands else pure ""
      let s ← get
      let (s, stream) := s.withStream (.source text.toBytes)
      let descriptor := processDescriptor -
        ((List.range 10).takeWhile fun n =>
          (s.descriptors.lookup (processDescriptor - n)).isSome).length
      set (s.lead descriptor stream)
      return valueAtoms true ("/dev/fd/" ++ Nat.repr descriptor)
    | .array _ => return []

/-- What a parameter stands for. -/
def subject : (fuel : Nat) → (name : String) → Subscript → Run Found
  | 0, _, _ => throw .exhausted
  | fuel + 1, name, key => do
    let s ← get
    match key with
    | .none => return s.found name
    | .each => return .several (s.arrayValue name).texts false
    | .joined => return .several (s.arrayValue name).texts true
    | .at key =>
      let key ← wordText fuel .verbatim key
      match s.arrayValue name with
      | .keyed elements => return .one (elements.lookup key)
      | v =>
        let place ← elementPlace name v key
        return .one (v.indexedElements.lookup place)

/-- Expand a parameter. -/
def parameterAtoms : (fuel : Nat) → Manner → (name : String) → Subscript → (quoted : Bool) → Use →
    Run (List Atom)
  | 0, _, _, _, _, _ => throw .exhausted
  | fuel + 1, m, name, key, quoted, use => do
    let d := (← get).dialect
    let atoms (f : Found) : Run (List Atom) := do
      return foundAtoms d m quoted (← get).separators.between f
    let shownName ← match key with
      | .at key => do pure (name ++ "[" ++ (← wordText fuel .verbatim key) ++ "]")
      | _ => pure name
    -- A missing parameter ends the shell if the option for that is on.
    let present : Run Found := do
      let f ← subject fuel name key
      match f with
      | .one none => if (← get).hasOption 'u' then refuseUnset shownName else return f
      | f => return f
    let usable? (orEmpty : Bool) : Run (Option Found) := do
      let f ← subject fuel name key
      return if f.isUsable d (← get).separators.between orEmpty then some f else none
    let inner (w : Word) : Run (List Atom) :=
      wordAtoms fuel { m with tilde := if quoted then .nowhere else .start } true w
    match use with
    | .plain => atoms (← present)
    | .length =>
      match ← present, d with
      | .one value, _ => return valueAtoms quoted (Nat.repr (value.getD "").length)
      | .several texts _, .rich => return valueAtoms quoted (Nat.repr texts.length)
      | .several texts _, .plain =>
        let between := (← get).separators.between
        return valueAtoms quoted (Nat.repr (between.intercalate texts).length)
    | .orElse orEmpty other =>
      match ← usable? orEmpty with
      | some f => atoms f
      | none => inner other
    | .orAssign orEmpty other =>
      match ← usable? orEmpty with
      | some f => atoms f
      | none =>
        let value ← wordText fuel .text other
        if isName name = false then
          if d = .plain then giveUp (name ++ ": bad variable name")
          else giveUp ("$" ++ name ++ ": cannot assign in this way")
        match key with
        | .at key => assignElement name (← wordText fuel .verbatim key) false value
        | _ => assign name value
        atoms (.one (some value))
    | .orExit orEmpty message =>
      match ← usable? orEmpty with
      | some f => atoms f
      | none =>
        let text ← wordText fuel .text message
        let text :=
          if !message.isEmpty then text
          else if !orEmpty then "parameter not set"
          else if d = .plain then "parameter not set or null"
          else "parameter null or not set"
        match d with
        | .plain => giveUp (name ++ ": " ++ text)
        | .rich =>
          say (shownName ++ ": " ++ text)
          exitWith 1
    | .ifSet orEmpty other =>
      match ← usable? orEmpty with
      | some _ => inner other
      | none => return []
    | .trimmed part pattern =>
      let f ← present
      let p := Pattern.ofChars d (← wordChars fuel pattern)
      atoms (f.trimmed d part p)
    | .slice start length =>
      let f ← present
      let first ← calculate (← wordText fuel .verbatim start)
      let count ← length.mapM fun w => do calculate (← wordText fuel .verbatim w)
      let refuse : Run (List Atom) :=
        giveUp (Int.repr (count.getD 0) ++ ": substring expression < 0")
      match f with
      | .one value =>
        match slicedFrom (value.getD "").toList first count with
        | some part => atoms (.one (some (String.ofList part)))
        | none => refuse
      | .several texts joined =>
        let s ← get
        let texts := if name = "@" ∨ name = "*" then s.script :: texts else texts
        match slicedFrom texts first count with
        | some part => atoms (.several part joined)
        | none => refuse
    | .replaced place pattern other =>
      let f ← present
      let p := Pattern.ofChars d (← wordChars fuel pattern)
      let chars ← wordChars fuel other
      if p.isEmpty ∧ (place = .first ∨ place = .every) then atoms f
      else atoms (f.map (replacedText place p chars))
    | .recased change all pattern =>
      let f ← present
      let p := Pattern.ofChars d (← wordChars fuel pattern)
      atoms (f.map (recasedWhere change all p))
    | .indirect use =>
      match ← present with
      | .one (some text) =>
        let target := text.toList.takeWhile (· != '[')
        let behind := text.toList.drop target.length
        let key : Subscript :=
          match behind with
          | [] => .none
          | _ :: key =>
            match String.ofList key.dropLast with
            | "@" => .each
            | "*" => .joined
            | key => .at (Word.ofText key)
        parameterAtoms fuel m (String.ofList target) key quoted use
      | _ => giveUp (name ++ ": invalid indirect expansion")
    | .namesFrom joined =>
      let names := ((← get).bindings.map (·.1)).filter fun known => name.isPrefixOf known
      atoms (.several (names.mergeSort fun a b => decide (a ≤ b)) joined)
    | .keys =>
      atoms (.several ((← get).arrayValue name).keys (key matches .joined))
    | .formed letter =>
      match letter, ← present with
      | 'A', .one (some text) =>
        atoms (.one (some (name ++ "=" ++ quotedRich text)))
      | 'a', _ =>
        let letters := ((← get).binding? name).elim "" fun v =>
          (if v.value matches .indexed _ then "a" else "") ++
          (if v.value matches .keyed _ then "A" else "") ++
          (if v.integer then "i" else "") ++ (if v.readOnly then "r" else "") ++
          (if v.exported then "x" else "")
        atoms (.one (some letters))
      | letter, f => atoms (f.map (formedText letter))
    | .senseless text =>
      match d with
      | .plain => giveUp "Bad substitution"
      | .rich =>
        say (text ++ ": bad substitution")
        exitWith 1

end

/-- The depth to which words are expanded. -/
def expansionFuel : Nat := 2000

/-- The text of a word that is not divided. -/
def textOf (m : Manner) (w : Word) : Run ByteText :=
  wordText capture expansionFuel m w

/-- The pattern of a word. -/
def patternOf (w : Word) : Run Pattern := do
  return Pattern.ofChars (← get).dialect (← wordChars capture expansionFuel w)

/-- The fields of a word. -/
def wordFields (w : Word) : Run (List ByteText) := do
  let d := (← get).dialect
  let words := if d = .rich then Word.alternatives w else [w]
  let fields ← words.mapM fun w => do
    let atoms ← wordAtoms capture expansionFuel .fields false w
    let s ← get
    return (fieldsOfAtoms s.separators none none atoms).flatMap s.matchedTexts
  return fields.flatten

/-- The fields of the words of a command. -/
def fieldsOf (words : List Word) : Run (List ByteText) := do
  return (← words.mapM (wordFields capture)).flatten

end

end DesignAtlas.Shell
