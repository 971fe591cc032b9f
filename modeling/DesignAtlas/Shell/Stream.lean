import DesignAtlas.Shell.ByteText
import DesignAtlas.Storage.Disk

/-!
# Streams

What the open descriptors of programs lead to. Descriptors that were made from one another lead to
the same stream, so they share its place in a file.

* `Stream.reads` and `Stream.writes` say what can be done with a stream.
-/

namespace DesignAtlas.Shell

/-- What a descriptor leads to. -/
inductive Stream where
  /-- Nowhere. Nothing is there to be read. -/
  | nowhere
  /-- To zeros without an end. -/
  | zeros
  /-- To a device without space. -/
  | full
  /-- From bytes that are left to be read. -/
  | source (left : List UInt8)
  /-- To a text that is collected. A pipe takes only so much of it. -/
  | collector (text : ByteText) (isPipe : Bool)
  /-- To a place in a file. -/
  | file (address : Address) (offset : Nat) (reads writes appends : Bool)
  /-- To a directory, which has no bytes. -/
  | directory (address : Address)
  deriving Repr

namespace Stream

/-- Whether something can be read from a stream. -/
def reads : Stream → Bool
  | nowhere => true
  | zeros => true
  | full => true
  | source _ => true
  | collector _ _ => false
  | file _ _ reads _ _ => reads
  | directory _ => true

/-- Whether something can be written to a stream. -/
def writes : Stream → Bool
  | nowhere => true
  | zeros => true
  | full => true
  | source _ => false
  | collector _ _ => true
  | file _ _ _ writes _ => writes
  | directory _ => false

/-- The number of bytes that a pipe takes. Who writes more does not come to an end. -/
def pipeLimit : Nat := 4194304

end Stream

/-- Put bytes into a content at a place. What is missing before the place is filled up. -/
def overwritten (content : List UInt8) (offset : Nat) (bytes : List UInt8) : List UInt8 :=
  let before := content.take offset
  before ++ List.replicate (offset - before.length) 0 ++ bytes ++
    content.drop (offset + bytes.length)

end DesignAtlas.Shell
