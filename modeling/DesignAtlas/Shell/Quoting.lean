import DesignAtlas.Shell.Syntax

/-!
# Quoting

How a shell writes texts so that it can read them again as one word. The plain dialect puts them
between single quotes; the rich one has several forms and escapes what cannot be printed.

* `quotedPlain` is the form of the plain dialect, `quotedRich` and `escapedRich` are forms of the
  rich one.
-/

namespace DesignAtlas.Shell

/-- Put texts without single quotes between single quotes, and runs of single quotes between double
quotes. -/
def quotedRuns : (fuel : Nat) → List Char → List Char
  | 0, _ => []
  | fuel + 1, text =>
    let before := text.takeWhile (· != '\x27')
    let behind := text.drop before.length
    let quotes := behind.takeWhile (· == '\x27')
    let rest := behind.drop quotes.length
    ['\x27'] ++ before ++ ['\x27'] ++
      (if quotes.isEmpty then [] else ['"'] ++ quotes ++ ['"']) ++
      if rest.isEmpty then [] else quotedRuns fuel rest

/-- A text in the quotes of the plain dialect. -/
def quotedPlain (t : ByteText) : ByteText :=
  String.ofList (quotedRuns (t.length + 1) t.toList)

/-- Whether a byte can be printed. -/
def isPrintable (c : Char) : Bool :=
  decide (' ' ≤ c) && decide (c ≤ '~')

/-- The three octal digits of a byte. -/
def octalDigits (c : Char) : String :=
  let n := c.toNat
  String.join [Nat.repr (n / 64), Nat.repr (n / 8 % 8), Nat.repr (n % 8)]

/-- A text between single quotes behind a dollar sign, with escapes. -/
def escapedRich (t : ByteText) : ByteText :=
  let letters : List (Char × Char) :=
    [('\x1b', 'E'), ('\x07', 'a'), ('\x0b', 'v'), ('\x08', 'b'), ('\x0c', 'f'), ('\n', 'n'),
      ('\r', 'r'), ('\t', 't'), ('\\', '\\'), ('\x27', '\x27')]
  let inner := t.toList.map fun c =>
    match letters.lookup c with
    | some letter => "\\" ++ letter.toString
    | none => if isPrintable c then c.toString else "\\" ++ octalDigits c
  "$'" ++ String.join inner ++ "'"

/-- Whether a text has bytes that cannot be printed. -/
def needsEscapes (t : ByteText) : Bool :=
  !t.toList.all isPrintable

/-- A text between single quotes, in the form of the rich dialect. -/
def singleQuotedRich (t : ByteText) : ByteText :=
  if t = "'" then "\\'"
  else "'" ++ String.join (t.toList.map fun c => if c = '\x27' then "'\\''" else c.toString) ++ "'"

/-- Whether a text means something else than itself to a shell. -/
def hasSpecials (t : ByteText) : Bool :=
  let special : List Char :=
    [' ', '\t', '\n', '\x27', '"', '\\', '|', '&', ';', '(', ')', '<', '>', '!', '\x7b', '\x7d',
      '*', '[', '?', ']', '^', '$', '\x60']
  t.toList.any special.contains || (t.toList.head?.any fun c => c == '~' || c == '#')

/-- A text as the rich dialect shows the values of variables and the words of commands. -/
def shownRich (t : ByteText) : ByteText :=
  if needsEscapes t then escapedRich t
  else if hasSpecials t then singleQuotedRich t
  else t

/-- A text in quotes of the rich dialect in any case. -/
def quotedRich (t : ByteText) : ByteText :=
  if needsEscapes t then escapedRich t else singleQuotedRich t

/-- A text with a backslash before every special character. -/
def backslashed (t : ByteText) : ByteText :=
  let special : List Char :=
    [' ', '\x27', '"', '\\', '|', '&', ';', '(', ')', '<', '>', '!', '\x7b', '\x7d', '*', '[', '?',
      ']', '^', '$', '\x60', ',']
  if t.isEmpty then "''"
  else if needsEscapes t then escapedRich t
  else
    String.join (t.toList.zipIdx.map fun e =>
      let isSpecial := special.contains e.1 || (e.2 == 0 && (e.1 == '~' || e.1 == '#'))
      if isSpecial then "\\" ++ e.1.toString else e.1.toString)

/-- A text between double quotes, as the rich dialect shows it in declarations. -/
def doubleQuotedRich (t : ByteText) : ByteText :=
  if needsEscapes t then escapedRich t
  else
    "\"" ++ String.join (t.toList.map fun c =>
      if ['"', '$', '\x60', '\\'].contains c then "\\" ++ c.toString else c.toString) ++ "\""

end DesignAtlas.Shell
