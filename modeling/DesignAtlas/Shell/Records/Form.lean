import DesignAtlas.Regex.Reader

/-!
# Forms of texts

The expressions that scripts for records describe texts with. They are those of other tools, but a
backslash keeps its meaning between brackets, and it stands for no classes of characters.

* `formOf` reads an expression.
-/

namespace DesignAtlas.Shell.Records

/-- The character that a letter behind a backslash stands for. -/
def escapedLetter? (c : Char) : Option Char :=
  ([('n', '\n'), ('t', '\t'), ('r', '\r'), ('f', '\x0c'), ('v', '\x0b'), ('a', '\x07'),
    ('b', '\x08'), ('"', '"'), ('/', '/')] : List (Char × Char)).lookup c

/-- The value of up to three octal digits at the start of a text, with the text behind them. -/
def octalCode? (text : List Char) : Option (Char × List Char) :=
  let isOctal (c : Char) : Bool := '0' ≤ c && c ≤ '7'
  let digits := (text.take 3).takeWhile isOctal
  if digits.isEmpty then none
  else
    let code := digits.foldl (fun n d => 8 * n + (d.toNat - 48)) 0
    some (Char.ofNat (code % 256), text.drop digits.length)

/-- The character that a backslash and what follows it stand for, and the text behind. -/
def escapeAt? (text : List Char) : Option (Char × List Char) :=
  match octalCode? text, text with
  | some found, _ => some found
  | none, c :: rest => (escapedLetter? c).map fun e => (e, rest)
  | none, [] => none

/-- The characters between brackets. Those that a bracket means something else by are put where they
stand for themselves. -/
def bracketText : (fuel : Nat) → (isFirst : Bool) → List Char →
    (taken : List Char) → (special : List Char) → Option (List Char × List Char)
  | 0, _, _, _, _ => none
  | fuel + 1, isFirst, text, taken, special =>
    let keep (c : Char) (rest : List Char) : Option (List Char × List Char) :=
      if c = ']' ∨ c = '-' ∨ c = '^' then bracketText fuel false rest taken (c :: special)
      else bracketText fuel false rest (c :: taken) special
    match text with
    | [] => none
    | ']' :: rest =>
      if isFirst then keep ']' rest
      else
        let put (c : Char) : List Char := if special.contains c then [c] else []
        let inner := put ']' ++ taken.reverse ++ put '^' ++ put '-'
        some (inner, rest)
    | '[' :: ':' :: rest =>
      let name := rest.takeWhile (· != ':')
      match rest.drop name.length with
      | ':' :: ']' :: behind =>
        bracketText fuel false behind ((['[', ':'] ++ name ++ [':', ']']).reverse ++ taken) special
      | _ => bracketText fuel false (':' :: rest) ('[' :: taken) special
    | '\\' :: rest =>
      match escapeAt? rest, rest with
      | some (c, behind), _ => keep c behind
      | none, c :: behind => keep c behind
      | none, [] => none
    | '-' :: rest =>
      if isFirst ∨ rest.head? = some ']' then keep '-' rest
      else bracketText fuel false rest ('-' :: taken) special
    | c :: rest => bracketText fuel false rest (c :: taken) special

/-- An expression in the spelling of other tools. -/
def spelledPlainly : (fuel : Nat) → List Char → List Char
  | 0, text => text
  | fuel + 1, text =>
    let isSpecial (c : Char) : Bool := ".[]()*+?|^$\\\x7b\x7d".toList.contains c
    let exactly (c : Char) : List Char := if isSpecial c then ['\\', c] else [c]
    match text with
    | [] => []
    | ['\\'] => ['\\', '\\']
    | '\\' :: rest =>
      match escapeAt? rest, rest with
      | some (c, behind), _ => exactly c ++ spelledPlainly fuel behind
      | none, c :: behind => exactly c ++ spelledPlainly fuel behind
      | none, [] => ['\\', '\\']
    | '[' :: rest =>
      let (opening, inner) := match rest with
        | '^' :: inner => (['[', '^'], inner)
        | inner => (['['], inner)
      match bracketText (rest.length + 1) true inner [] [] with
      | some (['^'], behind) =>
        -- A circumflex alone is written without brackets.
        (if opening.length = 1 then ['\\', '^'] else ['[', '^', '^', ']']) ++
          spelledPlainly fuel behind
      | some (inner, behind) => opening ++ inner ++ ']' :: spelledPlainly fuel behind
      | none => text
    | c :: rest => c :: spelledPlainly fuel rest

/-- Read an expression. -/
def formOf (text : List Char) : Except Regex.ReadFault Regex :=
  Regex.ofText .lenient (spelledPlainly (text.length + 1) text)

end DesignAtlas.Shell.Records
