import DesignAtlas.Workspace.FileCategory
import DesignAtlas.Workspace.Folder

/-!
# The listing of a project's directory

The entries of the project's directory fall into sources, other files by category, and
directories, and each part keeps the order of the listing.

* `buckets` is what a project shows besides its modules: the included files, the categories that
  hold any file, and the directories.
-/

namespace DesignAtlas.Listing

/-- The files of one category. -/
def filesOf (category : FileCategory) (entries : List Entry) : List Entry :=
  entries.filter fun e => !e.isDirectory && FileCategory.ofName e.name == category

/-- The design sources. -/
def sources (entries : List Entry) : List Entry :=
  filesOf .source entries

/-- The directories, unread. -/
def directories (entries : List Entry) : List Folder :=
  (entries.filter Entry.isDirectory).map fun e => Folder.ofDirectory e.path

/-- The name of the bucket of included files. -/
def includesName : String := "`includes"

/-- The categories that are shown as buckets, with their names, in the order they are shown in. -/
def bucketCategories : List (String × FileCategory) :=
  [("Documents", .document), ("TestCases", .testCase), ("Tools", .tool), ("VCDs", .waveform),
   ("OtherFiles", .other)]

/-- The bucket of a category. -/
def bucket (name : String) (category : FileCategory) (entries : List Entry) : Folder :=
  Folder.ofFiles name ((filesOf category entries).map fun e => (e.name, e.path))

/-- The buckets of files, the included ones first. -/
def fileBuckets (included : List (String × Path)) (entries : List Entry) : List Folder :=
  Folder.ofFiles includesName included ::
    bucketCategories.map fun named => bucket named.1 named.2 entries

/-- The buckets that hold anything, followed by the directories. -/
def buckets (included : List (String × Path)) (entries : List Entry) : List Folder :=
  (fileBuckets included entries).filter (fun f => !f.children.isEmpty) ++ directories entries

end DesignAtlas.Listing
