/-!
# Nodes

What can stand at a place of a file system: a file, a directory, a symbolic link, a device or an
installed program. Everybody who works on a disk owns the files there, so a mode counts by the
rights that it gives the owner.

* `Mode` has the rights, `DiskNode` is a node with its mode.
-/

namespace DesignAtlas

/-- The permission bits of a node, from the rights of others up to those of the owner. -/
structure Mode where
  /-- The bits as a number. -/
  bits : Nat
  deriving DecidableEq, Repr

namespace Mode

/-- The mode of a new file. -/
def newFile : Mode := ⟨0o644⟩

/-- The mode of a new file that can be started as a program. -/
def newProgram : Mode := ⟨0o755⟩

/-- The mode of a new directory. -/
def newDirectory : Mode := ⟨0o755⟩

/-- The mode of what nobody has a right to. -/
def closed : Mode := ⟨0⟩

/-- Whether the owner can read. -/
def mayRead (m : Mode) : Bool := m.bits.testBit 8

/-- Whether the owner can write. -/
def mayWrite (m : Mode) : Bool := m.bits.testBit 7

/-- Whether the owner can start a file, or go through a directory. -/
def mayEnter (m : Mode) : Bool := m.bits.testBit 6

/-- A mode without the bits of a mask. -/
def without (m : Mode) (mask : Nat) : Mode :=
  ⟨m.bits - (m.bits &&& mask)⟩

end Mode

/-- A file that stands for something else than a content on the disk. -/
inductive Device where
  /-- It is empty, and what is written there is lost. -/
  | null
  /-- It has no end, and what is written there is lost. -/
  | zeros
  /-- Nothing can be written there for lack of space. -/
  | full
  /-- The terminal, which nobody has. -/
  | terminal
  /-- What an open descriptor leads to. -/
  | descriptor (number : Nat)
  deriving DecidableEq, Repr

/-- A regular file. -/
structure FileNode where
  /-- The bytes of the file. -/
  content : List UInt8
  /-- The permissions. -/
  mode : Mode
  /-- The number that all names of the file share. -/
  identity : Nat
  /-- When the content was written, in nanoseconds. -/
  modified : Nat
  deriving DecidableEq, Repr

/-- What stands at an address. -/
inductive DiskNode where
  /-- A regular file. -/
  | file (f : FileNode)
  /-- A directory. -/
  | directory (mode : Mode)
  /-- A symbolic link. -/
  | link (target : String)
  /-- A device. -/
  | device (d : Device)
  /-- A program that is installed under a name. -/
  | program (name : String)
  deriving DecidableEq, Repr

end DesignAtlas
