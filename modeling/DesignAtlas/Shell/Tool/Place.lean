import DesignAtlas.Shell.Tool.Basic

/-!
# Places of nodes

What tools do with the entries of directories: make them, take them away, and move them. A directory
can be changed only if it can be written and entered.

* `Session.slot` is the address that a path names, whether or not anything stands there.
* `Session.makeDirectory`, `Session.makeLink` and `Session.removeEntry` change directories.
-/

namespace DesignAtlas.Shell

open Text

namespace Session

/-- The address that a path names without following a link at its end, with whether a slash stands
behind it. Nothing need stand there. -/
def slot (s : Session) (path : ByteText) : Except FileFault (Address × Bool) := do
  let p : Path := ⟨path.toText⟩
  match Disk.pathFault? p with
  | some fault => throw fault
  | none =>
    let steps := Disk.steps p.text
    let inner := (steps.reverse.dropWhile (· == "")).reverse
    let start := Disk.origin s.directory p.text
    match inner.getLast? with
    | none => return (start, true)
    | some name =>
      if name = "." ∨ name = ".." then
        return (← s.disk.walk .node Disk.maxLinks start inner, true)
      else
        -- The step behind the parent makes sure that it is a directory which can be entered.
        let parent ← s.disk.walk .node Disk.maxLinks start (inner.dropLast ++ ["."])
        if Disk.maxNameLength < name.utf8ByteSize then throw .nameTooLong
        return (parent ++ [name], inner.length < steps.length)

/-- Why the entry at an address cannot be made or taken away. -/
def changeFault? (s : Session) (address : Address) : Option FileFault :=
  match s.disk.node? address.dropLast with
  | some (.directory mode) => if mode.mayWrite && mode.mayEnter then none else some .denied
  | some _ => some .notDirectory
  | none => some .missing

/-- A session whose disk has changed. -/
def withDisk (s : Session) (disk : Disk) : Session :=
  { s with disk := disk }

/-- Make a directory. -/
def makeDirectory (s : Session) (path : ByteText) (mode : Mode) : Except FileFault Session := do
  let (address, _) ← s.slot path
  if (s.disk.node? address).isSome then throw .alreadyThere
  match s.changeFault? address with
  | some fault => throw fault
  | none => return s.withDisk (s.disk.put address (.directory mode))

/-- Make a link with a target. -/
def makeLink (s : Session) (target path : ByteText) : Except FileFault Session := do
  let (address, hasSlash) ← s.slot path
  if (s.disk.node? address).isSome then throw .alreadyThere
  if hasSlash then throw .missing
  match s.changeFault? address with
  | some fault => throw fault
  | none => return s.withDisk (s.disk.put address (.link target.toText))

/-- Take away what stands at an address. A directory has to be empty. -/
def removeEntry (s : Session) (address : Address) : Except FileFault Session := do
  match s.disk.node? address with
  | none => throw .missing
  | some node =>
    if (node matches .directory _) && !(s.disk.inside address).isEmpty then throw .notEmpty
    match s.changeFault? address with
    | some fault => throw fault
    | none =>
      if s.disk.nodes.any (·.1 == address) then return s.withDisk (s.disk.remove address)
      else throw .denied

/-- The names inside a directory, sorted by their bytes. -/
def namesInside (s : Session) (address : Address) : List ByteText :=
  ((s.disk.inside address).map (ByteText.ofText ·.1)).mergeSort fun a b => decide (a ≤ b)

end Session

/-- The last part of a path, without slashes behind it. -/
def lastPart (path : ByteText) : ByteText :=
  let chars := (path.toList.reverse.dropWhile (· == '/')).reverse
  if chars.isEmpty then (if path.isEmpty then "" else "/")
  else String.ofList (chars.reverse.takeWhile (· != '/')).reverse

/-- A path without its last part. -/
def withoutLastPart (path : ByteText) : ByteText :=
  let chars := path.toList.reverse.dropWhile (· == '/')
  let rest := (chars.dropWhile (· != '/')).dropWhile (· == '/')
  if !rest.isEmpty then String.ofList rest.reverse
  else if path.toList.head? = some '/' then "/"
  else "."

/-- The letters of the rights of a mode. -/
def modeLetters (mode : Nat) : ByteText :=
  let part (shift : Nat) (special : Bool) (letter : Char) : List Char :=
    let bits := mode / Nat.pow 2 shift % 8
    let enters := bits % 2 = 1
    [if bits / 4 = 1 then 'r' else '-', if bits / 2 % 2 = 1 then 'w' else '-',
      if special then (if enters then letter else letter.toUpper)
      else if enters then 'x' else '-']
  String.ofList (part 6 (mode.testBit 11) 's' ++ part 3 (mode.testBit 10) 's' ++
    part 0 (mode.testBit 9) 't')

/-- The letter of the kind of a node. -/
def kindLetter : DiskNode → Char
  | .file _ => '-'
  | .directory _ => 'd'
  | .link _ => 'l'
  | .device _ => 'c'
  | .program _ => '-'

/-- A mode as four octal digits. -/
def octalMode (mode : Nat) : ByteText :=
  let digits := String.ofList (Nat.toDigits 8 mode)
  "".pushn '0' (4 - digits.length) ++ digits

end DesignAtlas.Shell
