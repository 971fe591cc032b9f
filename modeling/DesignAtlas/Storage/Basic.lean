import DesignAtlas.Path
import DesignAtlas.Storage.Fault

/-!
# Storage

What a project asks of a file system. A storage answers from one moment: the same question gets
the same answer.
-/

namespace DesignAtlas

/-- A file or a directory directly inside a listed directory. -/
structure Entry where
  /-- The name of the entry. -/
  name : String
  /-- The path of the entry, below the path that was listed. -/
  path : Path
  /-- Whether the entry is a directory. -/
  isDirectory : Bool
  deriving DecidableEq, Repr

/-- A file system as a project sees it. -/
structure Storage where
  /-- The files and directories directly inside a directory, sorted by name. -/
  list : Path → Except FileFault (List Entry)
  /-- The content of a file. -/
  read : Path → Except FileFault (List UInt8)
  /-- Whether a path leads to a regular file. -/
  isFile : Path → Bool

end DesignAtlas
