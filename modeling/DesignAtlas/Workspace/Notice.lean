import DesignAtlas.Workspace.Project

/-!
# Notices

What a project reports while it works: one notice for every step of an analysis and for the few
other events worth knowing. Notices only tell what happened; nothing depends on them.
-/

namespace DesignAtlas

/-- How much a notice matters. -/
inductive Level where
  /-- Something is not as it should be. -/
  | warning
  /-- A step was made. -/
  | info
  /-- A detail of a step. -/
  | debug
  deriving DecidableEq, Repr

/-- The name of a level. -/
def Level.name : Level → String
  | warning => "WARN"
  | info => "INFO"
  | debug => "DEBUG"

/-- Something that a project reports. -/
inductive Notice where
  /-- The analysis of a root directory starts. -/
  | scanning (root : Path)
  /-- So many source files are there. -/
  | foundSources (count : Nat)
  /-- A source file cannot be read. -/
  | skipping (path : Path) (fault : FileFault)
  /-- A file defines a module. -/
  | defines (file name : String) (line : Nat)
  /-- So many modules and included files are known. -/
  | registered (modules includes : Nat)
  /-- So many instantiations were found. -/
  | linked (count : Nat)
  /-- So many modules are roots. -/
  | derivedRoots (count : Nat)
  /-- There is nothing to analyze. -/
  | alreadyAnalyzed (progress : String)
  /-- The analysis is forgotten. -/
  | clearing (root : Path)
  /-- A directory is read. -/
  | expanding (location : Path)
  /-- A name has several definitions, and the one in this file is used. -/
  | ambiguous (name file : String)
  deriving DecidableEq, Repr

namespace Notice

/-- How much a notice matters. -/
def level : Notice → Level
  | scanning _ | foundSources _ | registered _ _ | linked _ | derivedRoots _ => .info
  | skipping _ _ | ambiguous _ _ => .warning
  | defines _ _ _ | alreadyAnalyzed _ | clearing _ | expanding _ => .debug

/-- The wording of a notice. -/
def text : Notice → String
  | scanning root => "Scanning " ++ root.text
  | foundSources count => "Found " ++ Nat.repr count ++ " source files"
  | skipping path fault => "Skipping source file: " ++ (Failure.file path fault).message
  | defines file name line =>
    "module " ++ name ++ " in " ++ file ++ " at line " ++ Nat.repr line
  | registered modules includes =>
    "Registered " ++ Nat.repr modules ++ " modules, " ++ Nat.repr includes ++ " includes"
  | linked count => "Resolved " ++ Nat.repr count ++ " instantiations"
  | derivedRoots count => "Derived " ++ Nat.repr count ++ " root modules"
  | alreadyAnalyzed progress => "analysis already " ++ progress ++ ", nothing to do"
  | clearing root => "clearing project " ++ root.text
  | expanding location => "expanding folder " ++ location.text
  | ambiguous name file =>
    "module " ++ name ++ " is defined in several files, using " ++ file

end Notice

/-- The notices of the analysis of a directory with the given entries, from the listing on. -/
def Analysis.notices (storage : Storage) (schedule : Schedule) (root : Path)
    (entries : List Entry) : List Notice :=
  let analysis := Analysis.ofEntries storage schedule root entries
  let sources := Listing.sources entries
  let arrivals := Analysis.arrivals storage schedule sources
  let modules := Analysis.definedModules (Analysis.parsedSources sources arrivals)
  [.foundSources sources.length] ++
    (Analysis.unreadable sources arrivals).map (fun skipped => .skipping skipped.1 skipped.2) ++
    modules.map (fun m => .defines m.file m.name m.line) ++
    [.registered analysis.registry.modules.length analysis.includes.length,
     .linked analysis.registry.instantiations.length,
     .derivedRoots analysis.registry.roots.length]

namespace Project

/-- The notices of a request to analyze a project. -/
def analyzeNotices (storage : Storage) (schedule : Schedule) (p : Project) : List Notice :=
  match p.progress with
  | .idle =>
    .scanning p.root ::
      match storage.list p.root with
      | .ok entries => Analysis.notices storage schedule p.root entries
      | .error _ => []
  | progress => [.alreadyAnalyzed progress.name]

/-- The notices of a search for a module. -/
def findNotices (p : Project) (query : String) : List Notice :=
  match p.findModule query, splitQuery query with
  | .ok id, (name, none) =>
    if 1 < (p.registry.idsNamed name).length then
      [.ambiguous name ((p.registry.get? id).elim "" Module.file)]
    else []
  | _, _ => []

/-- The notices of a request to expand the folder that names lead to. -/
def expandNotices (p : Project) (names : List String) : List Notice :=
  match p.folder? names with
  | some (.unread _ location) => [.expanding location]
  | _ => []

end Project

end DesignAtlas
