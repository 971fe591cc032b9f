import DesignAtlas.Design.Hierarchy
import DesignAtlas.Workspace.Project

/-!
# The outline of a project

A project as plain text, one line for each thing shown: the included files, the hierarchy of the
modules, and the other buckets. Everything below a line is indented by two more blanks.
-/

namespace DesignAtlas

/-- The blanks before a line at a depth. -/
def indentation (depth : Nat) : String :=
  String.ofList (List.replicate (2 * depth) ' ')

/-- What is written behind a line for its marker. -/
def Marker.text : Marker → String
  | none => ""
  | recursive => " [recursive]"
  | shownAbove => " [shown above]"

/-- The text of a line of the hierarchy that shows the given module. -/
def HierarchyLine.text (line : HierarchyLine) (m : Module) : String :=
  indentation line.depth ++ line.label.elim "" (· ++ "  -  ") ++ m.name ++ " (" ++ m.file ++ ")" ++
    line.marker.text

/-- The lines of the module hierarchy. -/
def Registry.outlineLines (r : Registry) : List String :=
  r.hierarchy.filterMap fun line => (r.get? line.id).map line.text

mutual

/-- The lines of a folder. The entries of a read folder stand below it, sorted by name. -/
def Folder.outlineLines (depth : Nat) : Folder → List String
  | .unread name _ => [indentation depth ++ name ++ "/"]
  | .read name _ children =>
    (indentation depth ++ name ++ "/") ::
      ((FolderEntry.outlineBlocks (depth + 1) children).mergeSort fun a b => a.1 ≤ b.1).flatMap
        Prod.snd

/-- The names of entries with the lines of each. -/
def FolderEntry.outlineBlocks (depth : Nat) : List FolderEntry → List (String × List String)
  | [] => []
  | .file name _ :: entries =>
    (name, [indentation depth ++ name]) :: FolderEntry.outlineBlocks depth entries
  | .folder f :: entries =>
    (f.name, Folder.outlineLines depth f) :: FolderEntry.outlineBlocks depth entries

end

namespace Project

/-- The lines of the buckets whose name satisfies a condition. -/
def bucketLines (p : Project) (holds : String → Bool) : List String :=
  (p.buckets.filter fun f => holds f.name).flatMap (Folder.outlineLines 0)

/-- The lines of the outline. -/
def outlineLines (p : Project) : List String :=
  p.bucketLines (· == Listing.includesName) ++ p.registry.outlineLines ++
    p.bucketLines (· != Listing.includesName)

/-- The outline of a project as a text. -/
def outline (p : Project) : String :=
  match p.outlineLines with
  | [] => "No verilog project in this directory\n"
  | lines => String.join (lines.map (· ++ "\n"))

end Project

end DesignAtlas
