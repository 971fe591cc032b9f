import DesignAtlas.Design.CompileSet
import DesignAtlas.Workspace.Analysis

/-!
# Projects

A project is a root directory and what an analysis of it found. It is analyzed once; further
requests to analyze it do nothing until it is cleared. When the root cannot be listed the analysis
stays unfinished, again until the project is cleared. What an analysis finds exists only in a
project that is done, so nothing can be left over from an earlier one.
-/

namespace DesignAtlas

/-- How far the analysis of a project has come. -/
inductive Progress where
  /-- The project has not been analyzed since it was made or cleared. -/
  | idle
  /-- The analysis was started and did not finish. -/
  | running
  /-- The analysis is finished. -/
  | done (analysis : Analysis)

/-- The name of a state of progress. -/
def Progress.name : Progress → String
  | idle => "Idle"
  | running => "Running"
  | done _ => "Done"

/-- A root directory and the analysis of it. -/
structure Project where
  /-- The root directory. -/
  root : Path
  /-- How far the analysis has come. -/
  progress : Progress

namespace Project

/-- A project that has not been analyzed. -/
def ofRoot (root : Path) : Project :=
  ⟨root, .idle⟩

/-- The finished analysis. -/
def analysis? (p : Project) : Option Analysis :=
  match p.progress with
  | .done analysis => some analysis
  | _ => none

/-- The names of the source files. -/
def sources (p : Project) : List String :=
  p.analysis?.elim [] Analysis.sources

/-- The modules and their instantiations. -/
def registry (p : Project) : Registry :=
  p.analysis?.elim Registry.empty Analysis.registry

/-- The modules that no module instantiates. -/
def roots (p : Project) : List ModuleId :=
  p.registry.roots

/-- The included source files. -/
def includes (p : Project) : List IncludedFile :=
  p.analysis?.elim [] Analysis.includes

/-- The files and directories that are shown. -/
def buckets (p : Project) : List Folder :=
  p.analysis?.elim [] Analysis.buckets

/-- The source files that could not be read. -/
def skipped (p : Project) : List Path :=
  p.analysis?.elim [] Analysis.skipped

/-- Analyze a project that is idle. Fails if the root cannot be listed, and the analysis then
stays unfinished. -/
def analyze (storage : Storage) (schedule : Schedule) (p : Project) :
    Project × Except Failure Unit :=
  match p.progress with
  | .idle =>
    match storage.list p.root with
    | .ok entries =>
      ({ p with progress := .done (Analysis.ofEntries storage schedule p.root entries) }, .ok ())
    | .error fault => ({ p with progress := .running }, .error (.file p.root fault))
  | _ => (p, .ok ())

/-- Forget the analysis. -/
def clear (p : Project) : Project :=
  { p with progress := .idle }

/-- The parts of a query `name` or `name@file`, cut at the first `@`. -/
def splitQuery (query : String) : String × Option String :=
  match query.toList.dropWhile (· != '@') with
  | [] => (query, none)
  | _ :: file => (String.ofList (query.toList.takeWhile (· != '@')), some (String.ofList file))

/-- The module that a query `name` or `name@file` asks for. A name alone means its first
definition. -/
def findModule (p : Project) (query : String) : Except Failure ModuleId :=
  match p.progress with
  | .done analysis =>
    let (name, file) := splitQuery query
    match analysis.registry.find? name file with
    | some id => .ok id
    | none => .error (.moduleNotFound query)
  | _ => .error .notAnalyzed

/-- The files to compile for a module. -/
def compileSet (p : Project) (id : ModuleId) : Except Failure (List Path) :=
  match p.progress with
  | .done analysis => .ok (analysis.registry.compileSet id)
  | _ => .error .notAnalyzed

/-- The first bucket of a name. -/
def bucket? (p : Project) (name : String) : Option Folder :=
  p.buckets.find? fun f => f.name == name

/-- Change the first bucket of a name. There may be none, and the change may fail. -/
def changeBucket (name : String) (change : Folder → Option (Except Failure Folder)) :
    List Folder → Option (Except Failure (List Folder))
  | [] => none
  | f :: others =>
    if f.name = name then (change f).map fun changed => changed.map fun g => g :: others
    else (changeBucket name change others).map fun changed => changed.map fun gs => f :: gs

/-- Expand the folder that names lead to, the first of them naming a bucket. Gives the project
after the expansion, or nothing if there is no such folder. -/
def expand (storage : Storage) (p : Project) (names : List String) :
    Option (Except Failure Project) :=
  match p.progress, names with
  | .done analysis, name :: names =>
    (changeBucket name (Folder.expandAt storage names) analysis.buckets).map fun changed =>
      changed.map fun buckets => { p with progress := .done { analysis with buckets } }
  | _, _ => none

/-- The folder that names lead to, the first of them naming a bucket. -/
def folder? (p : Project) : (names : List String) → Option Folder
  | [] => none
  | name :: names => (p.bucket? name).bind (Folder.descend? names)

@[simp]
theorem progress_clear (p : Project) : p.clear.progress = .idle := rfl

@[simp]
theorem root_analyze (storage : Storage) (schedule : Schedule) (p : Project) :
    (p.analyze storage schedule).1.root = p.root := by
  unfold analyze
  split
  · split <;> rfl
  · rfl

end Project

end DesignAtlas
