import DesignAtlas.Storage.Basic
import DesignAtlas.Storage.Node

/-!
# Disks

A disk is a tree of nodes below one top directory. Every node stands at an address, the names that
lead to it from the top. Some nodes belong to the system and cannot be changed. Relative paths start
from the working directory.

* `locate` finds the address that a path leads to. It follows links, forty at most, so it ends on
  links that lead back to themselves.
* `list`, `read` and `write` are the operations on files, with the faults of a POSIX system.
* `storage` is the disk as a project sees it.
-/

namespace DesignAtlas

/-- The names that lead to a node, from the top directory on. -/
abbrev Address := List String

/-- Nodes by their addresses. What belongs to the system is there as well. -/
structure Disk where
  /-- What belongs to the system. It stays as it is. -/
  system : List (Address × DiskNode)
  /-- Where the working directory stands. -/
  workingDirectory : Address
  /-- The time when the disk was made, in nanoseconds. -/
  made : Nat
  /-- The nodes that do not belong to the system. -/
  nodes : List (Address × DiskNode)
  /-- The time, in nanoseconds. Every new content has a time of its own. -/
  clock : Nat
  deriving DecidableEq, Repr

namespace Disk

/-- The disk with nothing but what belongs to the system. -/
def ofSystem (system : List (Address × DiskNode)) (workingDirectory : Address) (made : Nat) :
    Disk :=
  ⟨system, workingDirectory, made, [], made⟩

/-- The absolute path that leads to an address. -/
def shownPath (address : Address) : String :=
  "/" ++ "/".intercalate address

/-- A path that leads from an address to another one. -/
def pathBetween (start goal : Address) : String :=
  let shared := ((start.zip goal).takeWhile fun names => names.1 == names.2).length
  "/".intercalate (List.replicate (start.length - shared) ".." ++ goal.drop shared)

/-- What stands at an address. -/
def node? (d : Disk) (address : Address) : Option DiskNode :=
  match d.nodes.lookup address with
  | some node => some node
  | none => d.system.lookup address

/-- Put a node at an address, in place of what stands there. -/
def put (d : Disk) (address : Address) (node : DiskNode) : Disk :=
  if d.nodes.any fun known => known.1 == address then
    { d with nodes := d.nodes.map fun known =>
        if known.1 == address then (address, node) else known }
  else { d with nodes := d.nodes ++ [(address, node)] }

/-- Remove what stands at an address and everything below it. -/
def remove (d : Disk) (address : Address) : Disk :=
  { d with nodes := d.nodes.filter fun known => !address.isPrefixOf known.1 }

/-- Move what stands at an address and everything below it to another one, in place of what stands
there. -/
def rename (d : Disk) (address goal : Address) : Disk :=
  { d with nodes := (d.remove goal).nodes.map fun known =>
      if address.isPrefixOf known.1 then (goal ++ known.1.drop address.length, known.2)
      else known }

/-- The names directly inside a directory with the nodes they name. -/
def inside (d : Disk) (address : Address) : List (String × DiskNode) :=
  let named (known : Address × DiskNode) : Option (String × DiskNode) :=
    match known.1.getLast? with
    | some name => if known.1.dropLast = address then some (name, known.2) else none
    | none => none
  let own := d.nodes.filterMap named
  own ++ (d.system.filterMap named).filter fun known => (own.lookup known.1).isNone

/-- The names between the slashes of a text. -/
def steps (text : String) : List String :=
  (Path.segments text.toList).map String.ofList

/-- The longest name that an entry can have, in bytes. -/
def maxNameLength : Nat := 255

/-- The number of links that are followed on the way to one node. -/
def maxLinks : Nat := 40

/-- What stands at the end of a path. -/
inductive Goal where
  /-- A node that is there. A link leads on to its target. -/
  | node
  /-- A node that is there. A link is the goal itself. -/
  | entry
  /-- A file that is to be written and need not be there. A link leads on to its target. -/
  | file
  deriving DecidableEq, Repr

/-- Where a walk along a text starts: at an address, or at the top for an absolute path. -/
def origin (address : Address) (text : String) : Address :=
  if (Path.mk text).isAbsolute then [] else address

/-- The address that steps lead to from an address. Every step goes through a directory that can be
entered, and a link leads on to its target. A file to be written has a name of its own, with no
slash behind it. -/
def walk (d : Disk) (goal : Goal) (links : Nat) (address : Address) (pending : List String) :
    Except FileFault Address :=
  match pending with
  | [] => .ok address
  | name :: pending =>
    match d.node? address with
    | none => .error .missing
    | some (.directory mode) =>
      if name = "" then walk d goal links address pending
      else if mode.mayEnter = false then .error .denied
      else if goal = .file ∧ pending.all (· = "") ∧ (pending ≠ [] ∨ name = "." ∨ name = "..") then
        .error .directory
      else if name = "." then walk d goal links address pending
      else if name = ".." then walk d goal links address.dropLast pending
      else if maxNameLength < name.utf8ByteSize then .error .nameTooLong
      else
        match d.node? (address ++ [name]) with
        | none => if goal = .file ∧ pending = [] then .ok (address ++ [name]) else .error .missing
        | some (.link target) =>
          if goal = .entry ∧ pending = [] then .ok (address ++ [name])
          else
            match links with
            | 0 => .error .linkLoop
            | links + 1 => walk d goal links (origin address target) (steps target ++ pending)
        | some _ => walk d goal links (address ++ [name]) pending
    | some _ => .error .notDirectory
termination_by (links, pending.length)

/-- The longest path that is looked up, in bytes. -/
def maxPathLength : Nat := 4095

/-- The fault of a path that no file can have. -/
def pathFault? (p : Path) : Option FileFault :=
  if p.text.toList.contains '\x00' then some .nulInPath
  else if p.text = "" then some .missing
  else if maxPathLength < p.text.utf8ByteSize then some .nameTooLong
  else none

/-- The address that a path leads to from an address. -/
def reach (d : Disk) (goal : Goal) (start : Address) (p : Path) : Except FileFault Address :=
  match pathFault? p with
  | some fault => .error fault
  | none => d.walk goal maxLinks (origin start p.text) (steps p.text)

/-- The address that a path leads to from an address, links followed. -/
def locateFrom (d : Disk) (start : Address) (p : Path) : Except FileFault Address :=
  d.reach .node start p

/-- The address that a path leads to from the working directory, links followed. -/
def locate (d : Disk) (p : Path) : Except FileFault Address :=
  d.locateFrom d.workingDirectory p

/-- What a path leads to from an address, links followed. -/
def nodeFrom (d : Disk) (start : Address) (p : Path) : Except FileFault DiskNode :=
  match d.locateFrom start p with
  | .error fault => .error fault
  | .ok address => (d.node? address).elim (.error .missing) .ok

/-- What a path leads to from the working directory, links followed. -/
def nodeAt (d : Disk) (p : Path) : Except FileFault DiskNode :=
  d.nodeFrom d.workingDirectory p

/-- Whether a path leads to a regular file. -/
def isFile (d : Disk) (p : Path) : Bool :=
  match d.nodeAt p with
  | .ok (.file _) => true
  | .ok (.program _) => true
  | _ => false

/-- The entry of a file or directory below a listed path. Only these are entries. -/
def entryOf? (p : Path) (name : String) : DiskNode → Option Entry
  | .file _ => some ⟨name, p.join name, false⟩
  | .program _ => some ⟨name, p.join name, false⟩
  | .directory _ => some ⟨name, p.join name, true⟩
  | _ => none

/-- The entries at an address, sorted by name, as seen below a path. -/
def entriesAt (d : Disk) (address : Address) (p : Path) : List Entry :=
  ((d.inside address).filterMap fun named => entryOf? p named.1 named.2).mergeSort
    fun a b => a.name ≤ b.name

/-- The files and directories directly inside a directory, sorted by name. Nothing is inside a
device. -/
def list (d : Disk) (p : Path) : Except FileFault (List Entry) :=
  match d.locate p with
  | .error fault => .error fault
  | .ok address =>
    match d.node? address with
    | some (.directory mode) =>
      if mode.mayRead then .ok (d.entriesAt address p) else .error .denied
    | some (.device _) => .ok []
    | some (.link _) => .error .missing
    | some _ => .error .regularFile
    | none => .error .missing

/-- The bytes that can be read from a node. -/
def contentOf : DiskNode → Except FileFault (List UInt8)
  | .file f => if f.mode.mayRead then .ok f.content else .error .denied
  | .directory mode => if mode.mayRead then .error .directory else .error .denied
  | .link _ => .error .missing
  | .device .terminal => .error .noDevice
  | .device _ => .ok []
  | .program name => .ok name.toUTF8.toList

/-- The content of a file. -/
def read (d : Disk) (p : Path) : Except FileFault (List UInt8) :=
  d.nodeAt p >>= contentOf

/-- The address of the node that can be written through a path from an address. -/
def writable (d : Disk) (start : Address) (p : Path) : Except FileFault Address :=
  match d.reach .file start p with
  | .error fault => .error fault
  | .ok address =>
    match d.node? address with
    | some (.directory _) => .error .directory
    | some (.file f) => if f.mode.mayWrite then .ok address else .error .denied
    | some (.device .terminal) => .error .noDevice
    | some (.program _) => .error .denied
    | some _ => .ok address
    | none =>
      match d.node? address.dropLast with
      | some (.directory mode) => if mode.mayWrite then .ok address else .error .denied
      | _ => .error .missing

/-- Change the file at an address, under all its names. -/
def changeFile (d : Disk) (address : Address) (change : FileNode → FileNode) : Disk :=
  match d.node? address with
  | some (.file f) =>
    { d with nodes := d.nodes.map fun known =>
        match known.2 with
        | .file g => if g.identity = f.identity then (known.1, .file (change g)) else known
        | _ => known }
  | _ => d

/-- Put a content into the file at an address, under all its names. A new file gets a mode. -/
def fill (d : Disk) (address : Address) (mode : Mode) (content : List UInt8) : Disk :=
  let now := d.clock + 1
  let d := { d with clock := now }
  match d.node? address with
  | some (.file _) => d.changeFile address fun f => { f with content := content, modified := now }
  | _ => d.put address (.file ⟨content, mode, now, now⟩)

/-- Write a file, in place of its former content. -/
def write (d : Disk) (p : Path) (content : List UInt8) : Except FileFault Disk :=
  match d.writable d.workingDirectory p with
  | .error fault => .error fault
  | .ok address =>
    match d.node? address with
    | some (.device .full) => if content = [] then .ok d else .error .noSpace
    | some (.device _) => .ok d
    | _ => .ok (d.fill address .newFile content)

/-- The address of a name inside a directory, or of the directory that it links to. -/
def enter (d : Disk) (address : Address) (name : String) : Address :=
  if name = "" ∨ name = "." then address
  else if name = ".." then address.dropLast
  else
    match d.walk .node maxLinks address [name] with
    | .ok inner => inner
    | .error _ => address ++ [name]

/-- Make the directories that names lead to, as far as they are not there. Gives the address of
the last one. -/
def makeDirectories (d : Disk) (address : Address) : List String → Disk × Address
  | [] => (d, address)
  | name :: names =>
    let inner := d.enter address name
    match d.node? inner with
    | some _ => makeDirectories d inner names
    | none => makeDirectories (d.put inner (.directory .newDirectory)) inner names

/-- What is put on a disk from outside. -/
inductive Deposit where
  /-- A file with a content, which can be a program. -/
  | file (content : List UInt8) (isProgram : Bool)
  /-- A directory. -/
  | directory
  /-- A symbolic link. -/
  | link (target : String)
  deriving DecidableEq, Repr

/-- Put something where a path leads, with the directories above it. The content of a file goes to
the end of a link. A directory that is there stays as it is. -/
def install (d : Disk) (p : Path) (deposit : Deposit) : Disk :=
  match (steps p.text).filter (· != "") with
  | [] => d
  | names =>
    let (made, parent) := d.makeDirectories (origin d.workingDirectory p.text) names.dropLast
    let name := names.getLast?.getD ""
    match deposit with
    | .link target => made.put (parent ++ [name]) (.link target)
    | .file content isProgram =>
      let address := (made.walk .file maxLinks parent [name]).toOption.getD (parent ++ [name])
      let filled := made.fill address .newFile content
      match filled.node? address with
      | some (.file f) =>
        filled.put address
          (.file { f with mode := if isProgram then .newProgram else .newFile })
      | _ => filled
    | .directory =>
      let inner := made.enter parent name
      match made.node? inner with
      | some (.directory _) => made
      | _ => made.put inner (.directory .newDirectory)

/-- Set the mode of what stands at an address. -/
def setMode (d : Disk) (address : Address) (mode : Mode) : Disk :=
  match d.node? address with
  | some (.directory _) => d.put address (.directory mode)
  | _ => d.changeFile address fun f => { f with mode := mode }

/-- Let nobody read what stands at an address. -/
def conceal (d : Disk) (address : Address) : Disk :=
  d.setMode address .closed

/-- The disk as a project sees it. -/
def storage (d : Disk) : Storage where
  list := d.list
  read := d.read
  isFile := d.isFile

end Disk

end DesignAtlas
