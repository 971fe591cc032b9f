import DesignAtlas.Failure
import DesignAtlas.Storage.Basic

/-!
# Folders

A folder is a named group of files: a category of the project's files, or a directory. A directory
is unread until it is expanded, and only a read folder has children, so nothing can stand below an
unread one.

* `expand` reads a directory that has not been read.
* `expandAt` expands a folder deep inside a read one and leaves everything around it alone.
-/

namespace DesignAtlas

mutual

/-- A named group of files. -/
inductive Folder where
  /-- A directory that has not been read. -/
  | unread (name : String) (location : Path)
  /-- A group whose files are known. A category has no location. -/
  | read (name : String) (location : Option Path) (children : List FolderEntry)

/-- A file or a folder inside a folder. -/
inductive FolderEntry where
  /-- A file. -/
  | file (name : String) (path : Path)
  /-- A folder. -/
  | folder (folder : Folder)

end

namespace Folder

/-- The name of a folder. -/
def name : Folder → String
  | unread name _ => name
  | read name _ _ => name

/-- The directory that a folder stands for. -/
def location? : Folder → Option Path
  | unread _ location => some location
  | read _ location _ => location

/-- The entries of a folder, as far as they are known. -/
def children : Folder → List FolderEntry
  | unread _ _ => []
  | read _ _ children => children

/-- The unread folder of a directory, named by the last component of its path. A path without such
a component is its own name. -/
def ofDirectory (path : Path) : Folder :=
  unread (path.fileName?.getD path.text) path

/-- A category holding the given files. -/
def ofFiles (name : String) (files : List (String × Path)) : Folder :=
  read name none (files.map fun file => .file file.1 file.2)

end Folder

namespace FolderEntry

/-- The name of an entry. -/
def name : FolderEntry → String
  | file name _ => name
  | folder f => f.name

/-- A listed entry as it stands inside a folder. Directories are unread. -/
def ofEntry (e : Entry) : FolderEntry :=
  if e.isDirectory then folder (Folder.ofDirectory e.path) else file e.name e.path

/-- The folder of the given name that an entry may be. -/
def folderNamed? (name : String) : FolderEntry → Option Folder
  | file _ _ => none
  | folder f => if f.name = name then some f else none

end FolderEntry

namespace Folder

/-- Read a directory that has not been read. -/
def expand (storage : Storage) : Folder → Except Failure Folder
  | unread name location =>
    match storage.list location with
    | .ok entries => .ok (read name (some location) (entries.map FolderEntry.ofEntry))
    | .error fault => .error (.file location fault)
  | read name location children => .ok (read name location children)

/-- The first folder of a name directly inside a folder. -/
def child? (f : Folder) (name : String) : Option Folder :=
  f.children.findSome? (FolderEntry.folderNamed? name)

/-- The folder that names lead to from a folder. -/
def descend? : (names : List String) → Folder → Option Folder
  | [], f => some f
  | name :: names, f => (f.child? name).bind (descend? names)

/-- Change the first folder of a name in a list of entries. There may be none, and the change may
fail. -/
def changeChild (name : String) (change : Folder → Option (Except Failure Folder)) :
    List FolderEntry → Option (Except Failure (List FolderEntry))
  | [] => none
  | entry :: entries =>
    match entry.folderNamed? name with
    | some f => (change f).map fun changed => changed.map fun g => .folder g :: entries
    | none =>
      (changeChild name change entries).map fun changed => changed.map fun others =>
        entry :: others

/-- Expand the folder that names lead to, through folders that were read before. -/
def expandAt (storage : Storage) : (names : List String) → Folder →
    Option (Except Failure Folder)
  | [], f => some (f.expand storage)
  | _ :: _, unread _ _ => none
  | next :: names, read name location children =>
    (changeChild next (expandAt storage names) children).map fun changed =>
      changed.map fun others => read name location others

end Folder

end DesignAtlas
