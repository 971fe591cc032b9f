import DesignAtlas.Shell.Numeral
import DesignAtlas.Shell.Syntax

/-!
# Braces

In the rich dialect a word with alternatives or a range between braces stands for several words.

* `Word.alternatives` are the words that a word stands for.
-/

namespace DesignAtlas.Shell

/-- A part of a word that braces are looked for in: a character or a piece that stays whole. -/
inductive BracePart where
  /-- A character outside quotes. -/
  | char (c : Char)
  /-- Anything else. -/
  | whole (p : Piece)

namespace BracePart

/-- The parts of a word. -/
def ofWord (w : Word) : List BracePart :=
  w.flatMap fun p =>
    match p with
    | .literal text false => text.toList.map char
    | p => [whole p]

/-- The word that parts make. -/
def toWord (parts : List BracePart) : Word :=
  parts.foldr (fun part w =>
    match part with
    | char c => Word.withText c.toString false w
    | whole p => p :: w) []

/-- Whether a part is a given character. -/
def isChar (wanted : Char) : BracePart → Bool
  | char c => c == wanted
  | whole _ => false

/-- The text of parts that are all characters. -/
def text? (parts : List BracePart) : Option String :=
  (parts.mapM fun part =>
    match part with
    | char c => some c
    | whole _ => none).map String.ofList

/-- Divide parts behind an opening brace at commas, up to the brace that closes it. Gives what
stands between and the parts behind. -/
def divided : (depth : Nat) → List BracePart → Option (List (List BracePart) × List BracePart)
  | _, [] => none
  | depth, part :: rest =>
    let added (found : List (List BracePart) × List BracePart) :
        List (List BracePart) × List BracePart :=
      match found.1 with
      | first :: others => ((part :: first) :: others, found.2)
      | [] => ([[part]], found.2)
    if part.isChar '\x7b' then (divided (depth + 1) rest).map added
    else if part.isChar '\x7d' then
      match depth with
      | 0 => some ([[]], rest)
      | depth + 1 => (divided depth rest).map added
    else if part.isChar ',' ∧ depth = 0 then
      (divided 0 rest).map fun found => ([] :: found.1, found.2)
    else (divided depth rest).map added

/-- The number with at least so many digits. -/
def padded (width : Nat) (n : Int) : String :=
  let sign := if n < 0 then "-" else ""
  let digits := Nat.repr n.natAbs
  sign ++ String.ofList (List.replicate (width - sign.length - digits.length) '0') ++ digits

/-- The numbers from one to another one. -/
def between (first last step : Int) : List Int :=
  let step := if step = 0 then 1 else step.natAbs
  let count := (last - first).natAbs / step + 1
  (List.range count).map fun (i : Nat) =>
    if first ≤ last then first + (i * step : Nat) else first - (i * step : Nat)

/-- The texts in a range of numbers or letters. -/
def range? (text : String) : Option (List String) :=
  let ends := text.splitOn ".."
  let step? := match ends with
    | [_, _] => some 1
    | [_, _, step] => decimal? step
    | _ => none
  match ends, step? with
  | first :: last :: _, some step =>
    match decimal? first, decimal? last with
    | some a, some b =>
      let isWide (t : String) : Bool :=
        match t.toList with
        | '-' :: '0' :: _ :: _ => true
        | '0' :: _ :: _ => true
        | _ => false
      let width := if isWide first || isWide last then max first.length last.length else 0
      some ((between a b step).map (padded width))
    | _, _ =>
      match first.toList, last.toList with
      | [a], [b] =>
        if a.isAlpha && b.isAlpha then
          some ((between a.toNat b.toNat step).map fun n => (Char.ofNat n.toNat).toString)
        else none
      | _, _ => none
  | _, _ => none

/-- The words that parts stand for. -/
def expanded : (fuel : Nat) → List BracePart → List (List BracePart)
  | 0, parts => [parts]
  | _ + 1, [] => [[]]
  | fuel + 1, part :: rest =>
    let plain : List (List BracePart) := (expanded fuel rest).map (part :: ·)
    if part.isChar '\x7b' then
      match divided 0 rest with
      | some ([single], behind) =>
        match (text? single).bind range? with
        | some texts =>
          let tails := expanded fuel behind
          texts.flatMap fun text => tails.map fun tail => text.toList.map char ++ tail
        | none => plain
      | some (choices, behind) =>
        let tails := expanded fuel behind
        choices.flatMap fun choice =>
          (expanded fuel choice).flatMap fun inner => tails.map fun tail => inner ++ tail
      | none => plain
    else plain

end BracePart

/-- The words that a word with braces stands for. -/
def Word.alternatives (w : Word) : List Word :=
  let parts := BracePart.ofWord w
  if parts.any (·.isChar '\x7b') then
    (BracePart.expanded (parts.length + 1) parts).map BracePart.toWord
  else [w]

end DesignAtlas.Shell
