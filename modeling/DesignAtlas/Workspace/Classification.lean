import DesignAtlas.Workspace.FileCategory
import DesignAtlas.Workspace.FolderNode

/-!
# Classifications

The entries of a project's directory are taken one behind the other. A directory is put with the
directories and a source with the sources; every other file is pushed into the bucket of its
category.

* `ofEntries` takes all entries of a directory.
* `intoBuckets` gives the folders that are shown: the buckets that hold anything, behind them the
  directories.
-/

namespace DesignAtlas

/-- The entries of a directory as far as they were taken. -/
structure Classification where
  /-- The design sources. -/
  sources : List Entry
  /-- The bucket of documents. -/
  documents : FolderNode
  /-- The bucket of test cases. -/
  testCases : FolderNode
  /-- The bucket of programs and scripts. -/
  tools : FolderNode
  /-- The bucket of waveform dumps. -/
  waveforms : FolderNode
  /-- The bucket of all other files. -/
  others : FolderNode
  /-- The directories. -/
  directories : List FolderNode

namespace Classification

/-- Nothing was taken yet. -/
def empty : Classification where
  sources := []
  documents := .bucket "Documents"
  testCases := .bucket "TestCases"
  tools := .bucket "Tools"
  waveforms := .bucket "VCDs"
  others := .bucket "OtherFiles"
  directories := []

/-- Take one more entry. -/
def add (c : Classification) (e : Entry) : Classification :=
  if e.isDirectory then { c with directories := c.directories ++ [.directory e.path] }
  else
    match FileCategory.ofName e.name with
    | .source => { c with sources := c.sources ++ [e] }
    | .document => { c with documents := c.documents.pushFile e.name e.path }
    | .testCase => { c with testCases := c.testCases.pushFile e.name e.path }
    | .tool => { c with tools := c.tools.pushFile e.name e.path }
    | .waveform => { c with waveforms := c.waveforms.pushFile e.name e.path }
    | .other => { c with others := c.others.pushFile e.name e.path }

/-- Take all entries of a directory. -/
def ofEntries (entries : List Entry) : Classification :=
  entries.foldl add empty

/-- The names of the sources. -/
def sourceNames (c : Classification) : List String :=
  c.sources.map Entry.name

/-- The buckets that hold anything, the one of the included files first, and then the
directories. -/
def intoBuckets (c : Classification) (includes : FolderNode) : List FolderNode :=
  [includes, c.documents, c.testCases, c.tools, c.waveforms, c.others].filter (!·.isEmpty) ++
    c.directories

end Classification

end DesignAtlas
