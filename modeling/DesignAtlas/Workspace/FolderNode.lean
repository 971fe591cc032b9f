import DesignAtlas.Failure
import DesignAtlas.Storage.Basic

/-!
# Folder nodes

A folder node is a folder as it is kept while a project is worked with: its name, the directory it
stands for, its children, and a mark that tells whether they were read. The mark and the children
are kept apart. Every operation gives the node that it leaves behind, also when it fails.

* `bucket` and `directory` make nodes, `pushFile` adds a file.
* `readChildren` lists the directory of a node that is not marked.
* `expandAt` follows names through the children and reads those of the last node.
-/

namespace DesignAtlas

mutual

/-- A named group of files. -/
inductive FolderNode where
  /-- A node of a name, for a directory or for none, with its children, which may be loaded. -/
  | mk (name : String) (location : Option Path) (children : List NodeEntry) (loaded : Bool)

/-- A file or a folder inside a folder. -/
inductive NodeEntry where
  /-- A file. -/
  | file (name : String) (path : Path)
  /-- A folder. -/
  | folder (folder : FolderNode)

end

namespace FolderNode

/-- The name of a folder. -/
def name : FolderNode → String
  | mk name _ _ _ => name

/-- The directory that a folder stands for. -/
def location? : FolderNode → Option Path
  | mk _ location _ _ => location

/-- The entries of a folder, as far as they were put into it. -/
def children : FolderNode → List NodeEntry
  | mk _ _ children _ => children

/-- Whether the folder is marked as read. -/
def isLoaded : FolderNode → Bool
  | mk _ _ _ loaded => loaded

/-- Whether there is nothing in a folder. -/
def isEmpty (f : FolderNode) : Bool :=
  f.children.isEmpty

/-- A folder with other children. -/
def withChildren (f : FolderNode) (children : List NodeEntry) : FolderNode :=
  mk f.name f.location? children f.isLoaded

/-- A group of files without a directory. -/
def bucket (name : String) : FolderNode :=
  mk name none [] true

/-- The folder of a directory, named by the last component of its path, with nothing in it yet. A
path without such a component is its own name. -/
def directory (path : Path) : FolderNode :=
  mk (path.fileName?.getD path.text) (some path) [] false

/-- Add a file behind the entries of a folder. -/
def pushFile (f : FolderNode) (name : String) (path : Path) : FolderNode :=
  f.withChildren (f.children ++ [.file name path])

end FolderNode

namespace NodeEntry

/-- The name of an entry. -/
def name : NodeEntry → String
  | file name _ => name
  | folder f => f.name

/-- A listed entry as it is put into a folder. -/
def ofEntry (e : Entry) : NodeEntry :=
  if e.isDirectory then folder (FolderNode.directory e.path) else file e.name e.path

/-- The folder of the given name that an entry may be. -/
def folderNamed? (name : String) : NodeEntry → Option FolderNode
  | file _ _ => none
  | folder f => if f.name = name then some f else none

/-- Change the first folder of a name among some entries, and give what the change gives. There may
be none. -/
def changeFirst {α : Type} (name : String) (change : FolderNode → Option (FolderNode × α)) :
    List NodeEntry → Option (List NodeEntry × α)
  | [] => none
  | entry :: entries =>
    match entry.folderNamed? name with
    | some f => (change f).map fun changed => (folder changed.1 :: entries, changed.2)
    | none =>
      (changeFirst name change entries).map fun changed => (entry :: changed.1, changed.2)

end NodeEntry

namespace FolderNode

/-- Read the directory of a folder that is not marked as read, and give its children. If the
listing fails, the folder stays as it was. -/
def readChildren (storage : Storage) (f : FolderNode) :
    FolderNode × Except Failure (List NodeEntry) :=
  if f.isLoaded then (f, .ok f.children)
  else
    match f.location? with
    | none => (mk f.name none f.children true, .ok f.children)
    | some location =>
      match storage.list location with
      | .error fault => (f, .error (.file location fault))
      | .ok entries =>
        let listed := entries.map NodeEntry.ofEntry
        (mk f.name (some location) listed true, .ok listed)

/-- Read the children of the folder that names lead to. There may be none. -/
def expandAt (storage : Storage) : (names : List String) → FolderNode →
    Option (FolderNode × Except Failure (List NodeEntry))
  | [], f => some (f.readChildren storage)
  | next :: names, f =>
    (NodeEntry.changeFirst next (expandAt storage names) f.children).map fun changed =>
      (f.withChildren changed.1, changed.2)

@[simp]
theorem name_mk (name : String) (location : Option Path) (children : List NodeEntry)
    (loaded : Bool) : (mk name location children loaded).name = name := rfl

@[simp]
theorem location?_mk (name : String) (location : Option Path) (children : List NodeEntry)
    (loaded : Bool) : (mk name location children loaded).location? = location := rfl

@[simp]
theorem children_mk (name : String) (location : Option Path) (children : List NodeEntry)
    (loaded : Bool) : (mk name location children loaded).children = children := rfl

@[simp]
theorem isLoaded_mk (name : String) (location : Option Path) (children : List NodeEntry)
    (loaded : Bool) : (mk name location children loaded).isLoaded = loaded := rfl

@[simp]
theorem withChildren_mk (name : String) (location : Option Path)
    (children others : List NodeEntry) (loaded : Bool) :
    (mk name location children loaded).withChildren others = mk name location others loaded := rfl

theorem withChildren_children (f : FolderNode) : f.withChildren f.children = f := by
  cases f
  rfl

end FolderNode

end DesignAtlas
