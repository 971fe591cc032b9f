import DesignAtlas.Design.Arena
import DesignAtlas.Workspace.Classification
import DesignAtlas.Workspace.Project

/-!
# Workspaces

A workspace is a project as it is worked with. The state of the analysis and everything that an
analysis finds stand side by side, and each is kept up to date by the operations. What a workspace
shows to reports and queries is a `Project`.

* `waitForAccomplish` makes the one analysis: it lists the root, scans the sources, registers what
  they define and include, links the modules and fills the buckets.
* `clear` forgets all that. `expand` reads the children of a folder.
* `project` is the project that a workspace shows.
-/

namespace DesignAtlas

/-- How far the analysis of a workspace has come. -/
inductive AnalysisState where
  /-- No analysis was started. -/
  | idle
  /-- An analysis was started and did not finish. -/
  | running
  /-- The analysis is finished. -/
  | done
  deriving DecidableEq, Repr

/-- The name of a state. -/
def AnalysisState.name : AnalysisState → String
  | idle => "Idle"
  | running => "Running"
  | done => "Done"

mutual

/-- The folder that a node shows. -/
def FolderNode.shown : FolderNode → Folder
  | .mk name (some location) _ false => .unread name location
  | .mk name location children _ => .read name location (NodeEntry.shownAll children)

/-- The entry that an entry of a node shows. -/
def NodeEntry.shown : NodeEntry → FolderEntry
  | .file name path => .file name path
  | .folder f => .folder f.shown

/-- The entries that the entries of a node show. -/
def NodeEntry.shownAll : List NodeEntry → List FolderEntry
  | [] => []
  | entry :: entries => entry.shown :: NodeEntry.shownAll entries

end

/-- A root directory with the state of its analysis and all that was found. -/
structure Workspace where
  /-- The root directory. -/
  root : Path
  /-- How far the analysis has come. -/
  state : AnalysisState
  /-- The names of the source files. -/
  sources : List String
  /-- The modules and their instantiations. -/
  registry : Arena
  /-- The modules that no module instantiates. -/
  roots : List ModuleId
  /-- The included source files. -/
  includes : List IncludedFile
  /-- The files and directories that are shown. -/
  buckets : List FolderNode
  /-- The source files that could not be read. -/
  skipped : List Path

namespace Workspace

/-- A workspace that was not analyzed. -/
def ofRoot (root : Path) : Workspace :=
  ⟨root, .idle, [], .empty, [], [], [], []⟩

/-! ### The stages of an analysis -/

/-- Take a finished read. What was read is put at the place of its file, and the path of a file that
cannot be read is noted down. -/
def takeArrival (sources : List Entry) (taken : List (Option Parsed) × List Path)
    (arrival : Arrival) : List (Option Parsed) × List Path :=
  match arrival.outcome with
  | .ok parsed => (taken.1.set arrival.place (some parsed), taken.2)
  | .error _ => (taken.1, taken.2 ++ (sources[arrival.place]?.map Entry.path).toList)

/-- Read all sources at once, and take the reads in the order they finish. Gives what was read, in
the order of the sources. -/
def scanSources (storage : Storage) (schedule : Schedule) (w : Workspace) (sources : List Entry) :
    Workspace × List (Entry × Parsed) :=
  let taken := (Analysis.arrivals storage schedule sources).foldl (takeArrival sources)
    (List.replicate sources.length none, w.skipped)
  ({ w with skipped := taken.2 },
    (sources.zip taken.1).filterMap fun slot => slot.2.map fun parsed => (slot.1, parsed))

/-- Add an included name, if it is the name of a source and not among the included files yet. -/
def addIncluded (root : Path) (sources : List String) (includes : List IncludedFile)
    (name : String) : List IncludedFile :=
  if sources.contains name && !includes.any (fun file => file.name == name) then
    includes ++ [⟨name, root.join name⟩]
  else includes

/-- Register what a source defines and includes. -/
def register (w : Workspace) (source : Entry) (parsed : Parsed) : Workspace :=
  { w with
    registry := parsed.definitions.foldl
      (fun a d => (a.register ⟨d.name, source.name, source.path, d.line, d.body⟩).1) w.registry
    includes := parsed.includedNames.foldl (addIncluded w.root w.sources) w.includes }

/-- Link the registered modules. -/
def resolveDependencies (w : Workspace) : Workspace :=
  { w with registry := (w.registry.apply w.registry.resolveAll).1 }

/-- The bucket of the included files. -/
def includesBucket (w : Workspace) : FolderNode :=
  w.includes.foldl (fun f file => f.pushFile file.name file.path) (.bucket "`includes")

/-- The stages of an analysis behind the listing of the root. -/
def analyze (storage : Storage) (schedule : Schedule) (w : Workspace) (c : Classification) :
    Workspace :=
  let w := { w with sources := c.sourceNames }
  let (w, parsed) := w.scanSources storage schedule c.sources
  let w := parsed.foldl (fun w read => w.register read.1 read.2) w
  let w := w.resolveDependencies
  let w := { w with roots := w.registry.roots }
  { w with buckets := c.intoBuckets w.includesBucket, state := .done }

/-! ### Requests -/

/-- Analyze a workspace that is idle. Fails if the root cannot be listed, and the analysis then
stays unfinished. -/
def waitForAccomplish (storage : Storage) (schedule : Schedule) (w : Workspace) :
    Workspace × Except Failure Unit :=
  if w.state = .idle then
    let w := { w with state := .running }
    match storage.list w.root with
    | .error fault => (w, .error (.file w.root fault))
    | .ok entries => (w.analyze storage schedule (.ofEntries entries), .ok ())
  else (w, .ok ())

/-- Forget everything that was found. -/
def clear (w : Workspace) : Workspace :=
  { w with state := .idle, sources := [], registry := .empty, roots := [], includes := [],
           buckets := [], skipped := [] }

/-- The module that a query `name` or `name@file` asks for. A name alone means its first
definition. -/
def findModule (w : Workspace) (query : String) : Except Failure ModuleId :=
  if w.state = .done then
    let (name, file) := Project.splitQuery query
    match w.registry.find? name file with
    | some id => .ok id
    | none => .error (.moduleNotFound query)
  else .error .notAnalyzed

/-- The files to compile for a module. -/
def compileSet (w : Workspace) (id : ModuleId) : Except Failure (List Path) :=
  if w.state = .done then .ok (w.registry.compileSet id) else .error .notAnalyzed

/-- The first bucket of a name. -/
def bucket? (w : Workspace) (name : String) : Option FolderNode :=
  w.buckets.find? fun f => f.name == name

/-- Change the first bucket of a name, and give what the change gives. There may be none. -/
def changeBucket {α : Type} (name : String) (change : FolderNode → Option (FolderNode × α)) :
    List FolderNode → Option (List FolderNode × α)
  | [] => none
  | f :: others =>
    if f.name = name then (change f).map fun changed => (changed.1 :: others, changed.2)
    else (changeBucket name change others).map fun changed => (f :: changed.1, changed.2)

/-- Read the children of the folder that names lead to, the first of them naming a bucket. There
may be no such folder. -/
def expand (storage : Storage) (w : Workspace) : (names : List String) →
    Option (Workspace × Except Failure (List NodeEntry))
  | [] => none
  | name :: names =>
    (changeBucket name (FolderNode.expandAt storage names) w.buckets).map fun changed =>
      ({ w with buckets := changed.1 }, changed.2)

/-- The project that a workspace shows. -/
def project (w : Workspace) : Project :=
  ⟨w.root,
    match w.state with
    | .idle => .idle
    | .running => .running
    | .done => .done
      ⟨w.sources, w.registry.toRegistry, w.includes, w.buckets.map FolderNode.shown, w.skipped⟩⟩

@[simp]
theorem state_clear (w : Workspace) : w.clear.state = .idle := rfl

end Workspace

end DesignAtlas
