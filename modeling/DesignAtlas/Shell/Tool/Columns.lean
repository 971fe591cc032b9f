import DesignAtlas.Shell.Tool.Basic

/-!
# Lines side by side

Two texts are shown in one line, with a mark between them. What does not fit into its half is cut
off, and tabs keep their meaning.

* `Columns.row` is a line with two texts and a mark.
-/

namespace DesignAtlas.Shell.Tools

/-- How lines are shown side by side. -/
structure Columns where
  /-- The number of columns for both lines. -/
  width : Nat
  /-- Whether lines that are the same are left out. -/
  hidesSame : Bool
  /-- Whether of lines that are the same only the left one is shown. -/
  onlyLeft : Bool
  /-- Whether spaces stand for tabs. -/
  usesSpaces : Bool
  deriving DecidableEq, Repr

namespace Columns

/-- The number of columns between two stops. -/
def tabSize : Nat := 8

/-- The least number of columns between two halves. -/
def leastGap : Nat := 3

/-- The column where the right half starts, and the width of a half. -/
def halves (l : Columns) : Nat × Nat :=
  let stop := if l.usesSpaces then 1 else tabSize
  let sum := stop + leastGap
  let odd := if l.width % 2 = 1 ∧ sum % 2 = 1 then 1 else 0
  let place := l.width / 2 + sum / 2 + odd
  let start := place - place % stop
  if start ≤ leastGap ∨ l.width ≤ start then (l.width, 0)
  else (start, min (start - leastGap) (l.width - start))

/-- The gap from a column to another one, with tabs as far as they reach. -/
def gap (l : Columns) (start stop : Nat) : ByteText :=
  if l.usesSpaces then "".pushn ' ' (stop - start)
  else
    let tabs := stop / tabSize - start / tabSize
    if tabs = 0 then "".pushn ' ' (stop - start)
    else "".pushn '\t' tabs ++ "".pushn ' ' (stop % tabSize)

/-- A text as far as it fits into its half, which starts at a column, and the column behind what is
shown. -/
def half (l : Columns) (start bound : Nat) (text : List Char) : ByteText × Nat :=
  let step (state : ByteText × Nat × Nat) (c : Char) : ByteText × Nat × Nat :=
    let (shown, place, column) := state
    if c = '\t' then
      let next := place + (tabSize - place % tabSize)
      if place ≠ column then (shown, next, column)
      else if l.usesSpaces then
        let stop := min next bound
        (shown.pushn ' ' (stop - column), next, max column stop)
      else if next < bound then (shown.push c, next, next)
      else (shown, next, column)
    else if c = '\r' then (shown.push c ++ l.gap 0 start, 0, 0)
    else if c = '\x08' then
      if place = 0 then state
      else if place - 1 < bound then
        if column ≤ place - 1 then (shown.pushn ' ' (place - 1 - column), place - 1, place - 1)
        else (shown.push c, place - 1, place - 1)
      else (shown, place - 1, column)
    else if isPrintable c then
      if place < bound then (shown.push c, place + 1, place + 1) else (shown, place + 1, column)
    else if place < bound then (shown.push c, place, column)
    else state
  let (shown, _, column) := text.foldl step ("", 0, 0)
  (shown, column)

/-- A line with two texts and a mark between them. Either text may be missing. -/
def row (l : Columns) (left : Option (List Char)) (mark : Char) (right : Option (List Char)) :
    ByteText :=
  let (start, width) := l.halves
  let isEnded (line : Option (List Char)) : Bool :=
    (line.map (·.getLast? == some '\n')).getD false
  let (text, column) := (left.map fun line => l.half 0 width (unended '\n' line)).getD ("", 0)
  let (text, column) :=
    if mark = ' ' then (text, column)
    else
      let place := (width + start - 1) / 2
      let mark :=
        if mark = '|' ∧ isEnded left ≠ isEnded right then
          (if isEnded left then '/' else '\\')
        else mark
      ((text ++ l.gap column place).push mark, max column place + 1)
  let behind :=
    match right with
    | some line =>
      if line = ['\n'] then ""
      else l.gap column start ++ (l.half start width (unended '\n' line)).1
    | none => ""
  text ++ behind ++ (if isEnded left || isEnded right then "\n" else "")

end Columns

end DesignAtlas.Shell.Tools
