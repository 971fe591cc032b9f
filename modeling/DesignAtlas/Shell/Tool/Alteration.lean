/-!
# Alterations

How one sequence becomes another one: which of its items are left out, and which ones of the other
sequence are put in. As few items as possible are altered, and what is altered stands as far behind
as possible.

* `alteredItems` are the items of two sequences that are left out and put in.
* `changesOf` are the places where items are left out and put in.
-/

namespace DesignAtlas.Shell

/-- A place where items of a sequence are left out and items of another one are put in. -/
structure Change where
  /-- The number of items in front of it in the first sequence. -/
  first : Nat
  /-- The number of items that are left out. -/
  removed : Nat
  /-- The number of items in front of it in the second sequence. -/
  second : Nat
  /-- The number of items that are put in. -/
  added : Nat
  deriving DecidableEq, Repr

/-- Which items of two sequences are altered. -/
structure Altered where
  /-- Whether an item of the first sequence is left out. -/
  removed : Array Bool
  /-- Whether an item of the second sequence is put in. -/
  added : Array Bool

namespace Altered

/-- Whether an item is altered. There are none beyond the ends. -/
def isSet (flags : Array Bool) (i : Nat) : Bool :=
  flags[i]?.getD false

/-- Mark a range of items. -/
def marked (flags : Array Bool) (start stop : Nat) : Array Bool :=
  (List.range (stop - start)).foldl (fun flags i => flags.setIfInBounds (start + i) true) flags

end Altered

/-! ### The shortest way -/

/-- The number of items that two sequences share from two places on, up to two others. -/
def sharedAhead (a b : Array Nat) (x xLimit y yLimit : Nat) : Nat :=
  ((List.range (min (xLimit - x) (yLimit - y))).takeWhile fun i => a[x + i]? == b[y + i]?).length

/-- The number of items that two sequences share in front of two places, back to two others. -/
def sharedBehind (a b : Array Nat) (x xStart y yStart : Nat) : Nat :=
  ((List.range (min (x - xStart) (y - yStart))).takeWhile fun i =>
    a[x - 1 - i]? == b[y - 1 - i]?).length

/-- How far a search has come on each diagonal, the difference of the places in two sequences. -/
structure Frontier where
  /-- The least diagonal that was reached. -/
  least : Int
  /-- The greatest diagonal that was reached. -/
  greatest : Int
  /-- The places in the first sequence, by diagonals. -/
  places : List (Int × Int)

namespace Frontier

/-- The place on a diagonal. -/
def placeOn (f : Frontier) (diagonal default : Int) : Int :=
  (f.places.lookup diagonal).getD default

/-- The diagonals of the next step, from the greatest one down. -/
def diagonals (f : Frontier) (lowest highest : Int) : Int × Int × List Int :=
  let least := if lowest < f.least then f.least - 1 else f.least + 1
  let greatest := if f.greatest < highest then f.greatest + 1 else f.greatest - 1
  let count := ((greatest - least) / 2 + 1).toNat
  (least, greatest, (List.range count).map fun (i : Nat) => greatest - 2 * (i : Int))

end Frontier

/-- A part of two sequences. -/
structure Region where
  /-- The start in the first sequence. -/
  xStart : Nat
  /-- The end in the first sequence. -/
  xStop : Nat
  /-- The start in the second sequence. -/
  yStart : Nat
  /-- The end in the second sequence. -/
  yStop : Nat

namespace Region

/-- Go one step from the start. A pair of places is met if a search from the end has come there. -/
def forward (r : Region) (a b : Array Nat) (f behind : Frontier) (meets : Bool) :
    Except (Nat × Nat) Frontier := do
  let (least, greatest, diagonals) :=
    f.diagonals ((r.xStart : Int) - r.yStop) ((r.xStop : Int) - r.yStart)
  let mut places := []
  for d in diagonals do
    let low := f.placeOn (d - 1) (-1)
    let high := f.placeOn (d + 1) (-1)
    let start : Int := if low < high then high else low + 1
    let shared := sharedAhead a b start.toNat r.xStop (start - d).toNat r.yStop
    let x := start + shared
    places := (d, x) :: places
    if meets && behind.least ≤ d && d ≤ behind.greatest then
      match behind.places.lookup d with
      | some place => if place ≤ x then throw (x.toNat, (x - d).toNat)
      | none => pure ()
  return ⟨least, greatest, places⟩

/-- Go one step from the end. A pair of places is met if a search from the start has come there. -/
def backward (r : Region) (a b : Array Nat) (f ahead : Frontier) (meets : Bool) :
    Except (Nat × Nat) Frontier := do
  let far : Int := a.size + b.size + 1
  let (least, greatest, diagonals) :=
    f.diagonals ((r.xStart : Int) - r.yStop) ((r.xStop : Int) - r.yStart)
  let mut places := []
  for d in diagonals do
    let low := f.placeOn (d - 1) far
    let high := f.placeOn (d + 1) far
    let start : Int := if low < high then low else high - 1
    let shared := sharedBehind a b start.toNat r.xStart (start - d).toNat r.yStart
    let x := start - shared
    places := (d, x) :: places
    if meets && ahead.least ≤ d && d ≤ ahead.greatest then
      match ahead.places.lookup d with
      | some place => if x ≤ place then throw (x.toNat, (x - d).toNat)
      | none => pure ()
  return ⟨least, greatest, places⟩

/-- A pair of places on a shortest way through a region, where searches from both ends meet. -/
def middle (r : Region) (a b : Array Nat) : (steps : Nat) → (f g : Frontier) → Nat × Nat
  | 0, _, _ => (r.xStart, r.yStop)
  | steps + 1, f, g =>
    let odd := ((r.xStart : Int) - r.yStart - (r.xStop - r.yStop)) % 2 != 0
    match r.forward a b f g odd with
    | .error met => met
    | .ok f =>
      match r.backward a b g f (!odd) with
      | .error met => met
      | .ok g => r.middle a b steps f g

/-- Mark the items of a region that are altered. -/
def altered (a b : Array Nat) : (depth : Nat) → Region → Altered → Altered
  | 0, r, known =>
    ⟨Altered.marked known.removed r.xStart r.xStop, Altered.marked known.added r.yStart r.yStop⟩
  | depth + 1, r, known =>
    let ahead := sharedAhead a b r.xStart r.xStop r.yStart r.yStop
    let r := { r with xStart := r.xStart + ahead, yStart := r.yStart + ahead }
    let behind := sharedBehind a b r.xStop r.xStart r.yStop r.yStart
    let r := { r with xStop := r.xStop - behind, yStop := r.yStop - behind }
    if r.xStart = r.xStop ∨ r.yStart = r.yStop then
      ⟨Altered.marked known.removed r.xStart r.xStop, Altered.marked known.added r.yStart r.yStop⟩
    else
      let start : Int := (r.xStart : Int) - r.yStart
      let stop : Int := (r.xStop : Int) - r.yStop
      let (x, y) := r.middle a b (a.size + b.size + 1) ⟨start, start, [(start, r.xStart)]⟩
        ⟨stop, stop, [(stop, r.xStop)]⟩
      altered a b depth { r with xStart := x, yStart := y }
        (altered a b depth { r with xStop := x, yStop := y } known)

end Region

/-! ### Items that hardly help -/

/-- What is known of an item before the search. -/
inductive Worth where
  /-- It takes part. -/
  | kept
  /-- It does not take part, for it is not in the other sequence. -/
  | lone
  /-- It is in the other sequence too often to be of help. -/
  | common
  deriving DecidableEq, Repr

/-- The power of two that has as many digits as a number has in base four, about its root. -/
def halfPower (n : Nat) : Nat :=
  Nat.pow 2 (Nat.log2 n / 2)

/-- The items of a run with those at the start that are too common and stand alone kept. -/
def withLooseEnd (run : List Worth) : List Worth :=
  let rec go (place inRow : Nat) : List Worth → List Worth
    | [] => []
    | w :: rest =>
      if 8 ≤ place ∧ w = .lone then w :: rest
      else
        match w with
        | .common => .kept :: go (place + 1) 0 rest
        | .kept => w :: go (place + 1) 0 rest
        | .lone => if inRow = 2 then w :: rest else w :: go (place + 1) (inRow + 1) rest
  go 0 0 run

/-- A run of items that do not take part, as far as common ones among them may be left out. -/
def settledRun (run : List Worth) : List Worth :=
  let atEnd := (run.reverse.takeWhile (· == .common)).length
  let inner := run.take (run.length - atEnd)
  let outer := List.replicate atEnd Worth.kept
  let isCommon (w : Worth) : Bool := w == .common
  if inner.length < inner.countP isCommon * 4 then
    inner.map (fun w => if w = .common then .kept else w) ++ outer
  else
    let minimum := halfPower (inner.length / 4) + 1
    let groups := inner.splitBy fun v w => isCommon v == isCommon w
    let thinned := groups.flatMap fun group =>
      if group.head? == some .common && minimum ≤ group.length then
        List.replicate group.length Worth.kept
      else group
    (withLooseEnd (withLooseEnd thinned).reverse).reverse ++ outer

/-- What is known of the items of a sequence, by the number of times that they are in the other. -/
def worths (items : Array Nat) (count : Nat → Nat) : List Worth :=
  let many := 5 * halfPower (items.size / 64)
  let first := items.toList.map fun item =>
    if count item = 0 then Worth.lone else if many < count item then .common else .kept
  -- A run starts with an item that is not in the other sequence.
  let runs := first.splitBy fun v w => (v == .kept) == (w == .kept)
  runs.flatMap fun run =>
    let loose := (run.takeWhile (· == .common)).length
    if run.head? == some .kept then run
    else List.replicate loose Worth.kept ++ settledRun (run.drop loose)

/-! ### Places -/

/-- A run of altered items that is moved, with the place in the other sequence that belongs to its
end. -/
structure MovedRun where
  /-- Which items are altered. -/
  flags : Array Bool
  /-- The start of the run. -/
  start : Nat
  /-- The end of the run. -/
  stop : Nat
  /-- The place in the other sequence. -/
  other : Nat

namespace MovedRun

open Altered

/-- The start of the altered items in front of a place. -/
def startOf (flags : Array Bool) : (place : Nat) → Nat
  | 0 => 0
  | place + 1 => if isSet flags place then startOf flags place else place + 1

/-- The end of the altered items from a place on. -/
def stopOf (flags : Array Bool) (place : Nat) : Nat :=
  place + ((flags.toList.drop place).takeWhile id).length

/-- The last place up to a given one whose item is not altered. -/
def keptBefore (flags : Array Bool) : (place : Nat) → Nat
  | 0 => 0
  | place + 1 => if isSet flags (place + 1) then keptBefore flags place else place + 1

/-- Move a run back by one item. -/
def back (m : MovedRun) (others : Array Bool) : MovedRun :=
  let flags := (m.flags.setIfInBounds (m.start - 1) true).setIfInBounds (m.stop - 1) false
  ⟨flags, startOf flags (m.start - 1), m.stop - 1, keptBefore others (m.other - 1)⟩

/-- Move a run ahead by one item. -/
def ahead (m : MovedRun) (others : Array Bool) : MovedRun :=
  let flags := (m.flags.setIfInBounds m.start false).setIfInBounds m.stop true
  ⟨flags, m.start + 1, stopOf flags m.stop, stopOf others (m.other + 1)⟩

/-- Move a run back as far as the items stay the same. -/
def farBack (items : Array Nat) (others : Array Bool) : (fuel : Nat) → MovedRun → MovedRun
  | 0, m => m
  | fuel + 1, m =>
    if 0 < m.start ∧ items[m.start - 1]? = items[m.stop - 1]? then
      farBack items others fuel (m.back others)
    else m

/-- Move a run ahead as far as the items stay the same. Gives the last place at which altered items
of the other sequence belong to it as well. -/
def farAhead (items : Array Nat) (others : Array Bool) :
    (fuel : Nat) → (matching : Nat) → MovedRun → MovedRun × Nat
  | 0, matching, m => (m, matching)
  | fuel + 1, matching, m =>
    if m.stop < items.size ∧ items[m.start]? = items[m.stop]? then
      let next := m.ahead others
      let matching := if next.other = m.other + 1 then matching else next.stop
      farAhead items others fuel matching next
    else (m, matching)

/-- Move a run back to a place. -/
def backTo (others : Array Bool) (place : Nat) : (fuel : Nat) → MovedRun → MovedRun
  | 0, m => m
  | fuel + 1, m =>
    if place < m.stop then
      let flags := (m.flags.setIfInBounds (m.start - 1) true).setIfInBounds (m.stop - 1) false
      backTo others place fuel
        ⟨flags, m.start - 1, m.stop - 1, keptBefore others (m.other - 1)⟩
    else m

/-- Move a run as far ahead as possible, joined with those that it meets, or to altered items of the
other sequence. -/
def settled (items : Array Nat) (others : Array Bool) : (fuel : Nat) → MovedRun → MovedRun
  | 0, m => m
  | fuel + 1, m =>
    let bound := items.size + 1
    let early := farBack items others bound m
    let matching :=
      if 0 < early.other && isSet others (early.other - 1) then early.stop else items.size
    let (late, matching) := farAhead items others bound matching early
    if late.stop - late.start = m.stop - m.start then backTo others matching bound late
    else settled items others fuel late

end MovedRun

/-- Move the altered items of a sequence as far ahead as possible. The altered items of the other
sequence are known. -/
def shifted (items : Array Nat) (others : Array Bool) (flags : Array Bool) : Array Bool :=
  let rec go : (fuel : Nat) → (i j : Nat) → Array Bool → Array Bool
    | 0, _, _, flags => flags
    | fuel + 1, i, j, flags =>
      if items.size ≤ i then flags
      else if Altered.isSet flags i then
        let run : MovedRun := ⟨flags, i, MovedRun.stopOf flags i, MovedRun.stopOf others j⟩
        let m := run.settled items others (items.size + 1)
        go fuel m.stop m.other m.flags
      else go fuel (i + 1) (MovedRun.stopOf others j + 1) flags
  go (2 * items.size + 1) 0 0 flags

/-! ### Changes -/

/-- The items of two sequences that are altered. -/
def alteredItems (a b : Array Nat) : Altered :=
  let count (items : Array Nat) (item : Nat) : Nat := items.toList.count item
  let indices (items : Array Nat) (w : List Worth) : Array Nat :=
    ((List.range items.size).zip w).foldl
      (fun found p => if p.2 = .kept then found.push p.1 else found) #[]
  let keptA := indices a (worths a (count b))
  let keptB := indices b (worths b (count a))
  let itemsA := keptA.map fun i => a[i]?.getD 0
  let itemsB := keptB.map fun i => b[i]?.getD 0
  let found := Region.altered itemsA itemsB (keptA.size + keptB.size + 1)
    ⟨0, keptA.size, 0, keptB.size⟩
    ⟨Array.replicate keptA.size false, Array.replicate keptB.size false⟩
  let spread (size : Nat) (kept : Array Nat) (flags : Array Bool) : Array Bool :=
    (kept.zip flags).foldl (fun all p => all.setIfInBounds p.1 p.2) (Array.replicate size true)
  let removed := spread a.size keptA found.removed
  let added := spread b.size keptB found.added
  let removed := shifted a added removed
  ⟨removed, shifted b removed added⟩

/-- The places where items are left out and put in, by the items that are altered. -/
def changesOf (m : Altered) : List Change :=
  let rec go : (fuel : Nat) → (i j : Nat) → List Change → List Change
    | 0, _, _, found => found.reverse
    | fuel + 1, i, j, found =>
      if m.removed.size ≤ i ∧ m.added.size ≤ j then found.reverse
      else
        let iStop := MovedRun.stopOf m.removed i
        let jStop := MovedRun.stopOf m.added j
        if i = iStop ∧ j = jStop then go fuel (i + 1) (j + 1) found
        else go fuel iStop jStop (⟨i, iStop - i, j, jStop - j⟩ :: found)
  go (2 * (m.removed.size + m.added.size) + 2) 0 0 []

end DesignAtlas.Shell
