import DesignAtlas.Json.Writer
import DesignAtlas.Workspace.Project

/-!
# The document of a project

A project as a JSON value. The modules form a table; the roots and the children of each module
refer to it by id, so shared and cyclic instantiations are written once. The fields of every
object stand in the order of their names.
-/

namespace DesignAtlas

open Json (Value)

/-- The value of a module with its place in the table. -/
def Registry.moduleValue (r : Registry) (id : ModuleId) (m : Module) : Value :=
  .object [
    ("children", .list ((r.submodules id).map fun instantiated =>
      .object [("instance", .text instantiated.1), ("module", .number instantiated.2)])),
    ("file", .text m.file), ("id", .number id), ("line", .number m.line), ("name", .text m.name)]

/-- The table of modules. -/
def Registry.moduleTable (r : Registry) : Value :=
  .list (r.modules.zipIdx.map fun entry => r.moduleValue entry.2 entry.1)

/-- The value of a file. -/
def fileValue (name : String) (path : Path) : Value :=
  .object [("name", .text name), ("path", .text path.text)]

mutual

/-- The value of a folder. It does not tell whether the folder has been read. -/
def Folder.toValue : Folder → Value
  | .unread name location =>
    .object [("children", .list []), ("location", .text location.text), ("name", .text name)]
  | .read name location children =>
    .object [("children", .list (FolderEntry.toValues children)),
      ("location", Value.ofOption (location.map Path.text)), ("name", .text name)]

/-- The values of entries. -/
def FolderEntry.toValues : List FolderEntry → List Value
  | [] => []
  | .file name path :: entries => fileValue name path :: FolderEntry.toValues entries
  | .folder f :: entries => f.toValue :: FolderEntry.toValues entries

end

namespace Project

/-- The value of a project. -/
def toValue (p : Project) : Value :=
  .object [
    ("buckets", .list (p.buckets.map Folder.toValue)),
    ("includes", .list (p.includes.map fun file => fileValue file.name file.path)),
    ("modules", p.registry.moduleTable),
    ("root", .text p.root.text),
    ("roots", Value.numbers p.roots),
    ("skipped", Value.texts (p.skipped.map Path.text)),
    ("sources", Value.texts p.sources),
    ("state", .text p.progress.name)]

/-- The document of a project. -/
def document (p : Project) (layout : Json.Layout) : String :=
  p.toValue.write layout

end Project

end DesignAtlas
