import DesignAtlas.Proofs.Design.Arenas
import DesignAtlas.Proofs.Workspace.DefinedModules
import DesignAtlas.Proofs.Workspace.FolderNodes
import DesignAtlas.Proofs.Workspace.Requests
import DesignAtlas.Proofs.Workspace.SortedEntries

/-!
# Workspaces and projects

A workspace keeps what an analysis finds in fields of its own, and the stages of an analysis fill
them one behind the other. What they hold at the end is what the analysis of a project is, so a
workspace goes through the same states as a project, whatever is asked of it.

* `Workspace.ofProject`: the workspace of a project. `project_ofProject`: it shows that project.
* `foldl_takeArrival`, `foldl_addIncluded`, `foldl_register`: what the loops of the stages leave.
* `analyze_ofEntries`: the stages of an analysis make the workspace of the analysis.
* `waitForAccomplish_ofProject`, `clear_ofProject`, `findModule_ofProject`, `compileSet_ofProject`,
  `map_fst_expand_ofProject`: whatever is asked of the workspace is asked of the project.
* `after_ofRoot`: a workspace after any requests.
-/

namespace DesignAtlas

/-- The state of an analysis. -/
def Progress.state : Progress → AnalysisState
  | idle => .idle
  | running => .running
  | done _ => .done

/-- A project shows the name of the state. -/
theorem Progress.name_state (progress : Progress) : progress.state.name = progress.name := by
  cases progress <;> rfl

namespace Workspace

/-- The workspace of a project. -/
def ofProject (p : Project) : Workspace where
  root := p.root
  state := p.progress.state
  sources := p.sources
  registry := .ofRegistry p.registry
  roots := p.roots
  includes := p.includes
  buckets := p.buckets.map .ofFolder
  skipped := p.skipped

variable {storage : Storage} {schedule : Schedule} {root : Path}

theorem map_shown_ofFolder (folders : List Folder) :
    (folders.map FolderNode.ofFolder).map FolderNode.shown = folders := by
  rw [List.map_map]
  exact (List.map_congr_left fun f _ => FolderNode.shown_ofFolder f).trans (List.map_id folders)

/-- The workspace of a project shows that project. -/
theorem project_ofProject (p : Project) : (ofProject p).project = p := by
  obtain ⟨root, progress⟩ := p
  cases progress with
  | idle => rfl
  | running => rfl
  | done analysis =>
    have hbuckets := map_shown_ofFolder analysis.buckets
    simp only [project, ofProject, Progress.state, Project.sources, Project.registry,
      Project.includes, Project.buckets, Project.skipped, Project.analysis?, Option.elim_some,
      hbuckets, Arena.ofRegistry]

/-! ### The loops of an analysis -/

/-- When some reads were taken, what was read stands at the places of the files, and the paths of
the others are noted down behind those that were there. -/
theorem foldl_takeArrival (sources : List Entry) (arrivals : List Arrival)
    (slots : List (Option Parsed)) (skipped : List Path) :
    arrivals.foldl (takeArrival sources) (slots, skipped) =
      (arrivals.foldl Analysis.fill slots,
        skipped ++ (Analysis.unreadable sources arrivals).map Prod.fst) := by
  induction arrivals generalizing slots skipped with
  | nil => simp [Analysis.unreadable]
  | cons arrival arrivals ih =>
    obtain ⟨place, outcome⟩ := arrival
    rw [List.foldl_cons, takeArrival, List.foldl_cons, Analysis.fill, Analysis.unreadable,
      List.filterMap_cons]
    cases outcome with
    | ok parsed => exact ih _ _
    | error fault =>
      -- the slots stay, and a path is noted down if there is a file at the place
      refine (ih _ _).trans ?_
      cases sources[place]? <;> simp [Analysis.unreadable]

theorem scanSources_eq (w : Workspace) (sources : List Entry) :
    w.scanSources storage schedule sources =
      let arrivals := Analysis.arrivals storage schedule sources
      ({ w with skipped := w.skipped ++ (Analysis.unreadable sources arrivals).map Prod.fst },
        Analysis.parsedSources sources arrivals) := by
  rw [scanSources, foldl_takeArrival]
  rfl

/-- A name is among the included files once it was mentioned and is the name of a source. -/
theorem any_includedFiles_iff {sources names : List String} {name : String} :
    (Analysis.includedFiles root sources names).any (fun file => file.name == name) = true ↔
      name ∈ names.filter fun name => sources.contains name := by
  simp only [Analysis.includedFiles, List.any_map, List.any_eq_true, Function.comp_apply,
    beq_iff_eq, List.mem_eraseDups, exists_eq_right]

/-- The included files are found name by name. -/
theorem foldl_addIncluded (root : Path) (sources names : List String) :
    names.foldl (addIncluded root sources) [] = Analysis.includedFiles root sources names := by
  induction names using List.reverseRecOn with
  | nil => rfl
  | append_singleton names name ih =>
    rw [List.foldl_append, ih, List.foldl_cons, List.foldl_nil, addIncluded]
    -- the name adds a file if it is the name of a source and was not mentioned before
    by_cases hsource : sources.contains name = true
    · have hkept : Analysis.includedFiles root sources (names ++ [name]) =
          ((if name ∈ names.filter fun name => sources.contains name then
            (names.filter fun name => sources.contains name).eraseDups
          else (names.filter fun name => sources.contains name).eraseDups ++ [name]).map
            fun name => ⟨name, root.join name⟩) := by
        rw [Analysis.includedFiles, List.filter_append, List.filter_singleton, hsource, cond_true,
          eraseDups_concat]
      rw [hkept]
      by_cases hknown : name ∈ names.filter fun name => sources.contains name
      · rw [if_pos hknown, any_includedFiles_iff.2 hknown, hsource]
        rfl
      · rw [if_neg hknown, Bool.eq_false_iff.2 (any_includedFiles_iff.not.2 hknown), hsource,
          List.map_append]
        rfl
    · rw [Bool.not_eq_true] at hsource
      rw [Analysis.includedFiles, Analysis.includedFiles, List.filter_append,
        List.filter_singleton, hsource, cond_false, List.append_nil]
      rfl

/-- Registering sources one behind the other registers all their modules and adds all names that
they include. -/
theorem foldl_register (parsed : List (Entry × Parsed)) (w : Workspace) {r : Registry}
    (hr : w.registry = .ofRegistry r) :
    parsed.foldl (fun w read => w.register read.1 read.2) w =
      { w with
        registry := .ofRegistry
          ((Analysis.definedModules parsed).foldl (fun r m => (r.register m).1) r)
        includes := (parsed.flatMap fun source => source.2.includedNames).foldl
          (addIncluded w.root w.sources) w.includes } := by
  induction parsed generalizing w r with
  | nil =>
    cases w
    cases hr
    rfl
  | cons read parsed ih =>
    have hmodules : (w.register read.1 read.2).registry =
        .ofRegistry ((read.2.definitions.map (Analysis.moduleOf read.1)).foldl
          (fun r m => (r.register m).1) r) := by
      rw [register, hr, List.foldl_map]
      exact List.foldl_hom Arena.ofRegistry fun r d =>
        congrArg Prod.fst (Arena.register_ofRegistry r (Analysis.moduleOf read.1 d))
    have hdefined : Analysis.definedModules (read :: parsed) =
        read.2.definitions.map (Analysis.moduleOf read.1) ++ Analysis.definedModules parsed := rfl
    rw [List.foldl_cons, ih _ hmodules, hdefined, List.foldl_append, List.flatMap_cons,
      List.foldl_append]
    rfl

/-- The bucket of the included files holds them in their order. -/
theorem includesBucket_eq (w : Workspace) : w.includesBucket =
    .mk "`includes" none (w.includes.map fun file => .file file.name file.path) true := by
  have hpush : ∀ (includes : List IncludedFile) (f : FolderNode),
      includes.foldl (fun f file => f.pushFile file.name file.path) f =
        f.withChildren (f.children ++ includes.map fun file => .file file.name file.path) := by
    intro includes
    induction includes with
    | nil => simp [FolderNode.withChildren_children]
    | cons file includes ih =>
      intro f
      rw [List.foldl_cons, ih]
      simp [FolderNode.pushFile, FolderNode.withChildren]
  rw [includesBucket, hpush]
  rfl

theorem isEmpty_ofFolder (f : Folder) :
    (FolderNode.ofFolder f).isEmpty = f.children.isEmpty := by
  cases f with
  | unread => rfl
  | read name location children => cases children <;> rfl

theorem ofFolder_ofFiles (name : String) (files : List (String × Path)) :
    FolderNode.ofFolder (Folder.ofFiles name files) =
      .mk name none (files.map fun file => .file file.1 file.2) true := by
  rw [Folder.ofFiles, FolderNode.ofFolder, NodeEntry.ofAll_eq_map, List.map_map]
  rfl

/-- The bucket of a category holds what was pushed into it. -/
theorem ofFolder_bucket (name : String) (category : FileCategory) (entries : List Entry) :
    FolderNode.ofFolder (Listing.bucket name category entries) =
      .mk name none (Classification.pushed category entries) true := by
  rw [Listing.bucket, ofFolder_ofFiles, List.map_map]
  rfl

/-- The buckets of a workspace are those of the listing and of the included files. -/
theorem intoBuckets_includesBucket (w : Workspace) (entries : List Entry) :
    (Classification.ofEntries entries).intoBuckets w.includesBucket =
      (Listing.buckets (w.includes.map fun file => (file.name, file.path)) entries).map
        FolderNode.ofFolder := by
  have hincludes : w.includesBucket = FolderNode.ofFolder (Folder.ofFiles Listing.includesName
      (w.includes.map fun file => (file.name, file.path))) := by
    rw [includesBucket_eq, ofFolder_ofFiles, List.map_map]
    rfl
  have hkept : ∀ folders : List Folder,
      (folders.filter fun f => !f.children.isEmpty).map FolderNode.ofFolder =
        (folders.map FolderNode.ofFolder).filter (!·.isEmpty) := by
    intro folders
    rw [List.filter_map]
    exact congrArg (List.map FolderNode.ofFolder) (List.filter_congr fun f _ =>
      congrArg (!·) (isEmpty_ofFolder f).symm)
  have hdirectories : (Listing.directories entries).map FolderNode.ofFolder =
      (entries.filter Entry.isDirectory).map fun e => .directory e.path := by
    rw [Listing.directories, List.map_map]
    rfl
  rw [Classification.ofEntries_eq, Classification.intoBuckets, hincludes, Listing.buckets,
    List.map_append, hkept, hdirectories, Listing.fileBuckets]
  simp only [List.map_cons, List.map_nil, Listing.bucketCategories, ofFolder_bucket]

/-! ### Requests -/

/-- The stages of an analysis of an idle workspace make the workspace of the analysis of its
directory. -/
theorem analyze_ofEntries (storage : Storage) (schedule : Schedule) (root : Path)
    (entries : List Entry) :
    ({ ofRoot root with state := .running }).analyze storage schedule (.ofEntries entries) =
      ofProject ⟨root, .done (Analysis.ofEntries storage schedule root entries)⟩ := by
  have hsources : (Classification.ofEntries entries).sources = Listing.sources entries := by
    rw [Classification.ofEntries_eq]
  -- what the workspace is behind the scan and behind the registrations
  let sources := Listing.sources entries
  let arrivals := Analysis.arrivals storage schedule sources
  let parsed := Analysis.parsedSources sources arrivals
  let scanned : Workspace :=
    { ofRoot root with
      state := .running
      sources := sources.map Entry.name
      skipped := (Analysis.unreadable sources arrivals).map Prod.fst }
  let registered : Workspace :=
    { scanned with
      registry := .ofRegistry
        ((Analysis.definedModules parsed).foldl (fun r m => (r.register m).1) Registry.empty)
      includes := Analysis.includedFiles root (sources.map Entry.name)
        (parsed.flatMap fun source => source.2.includedNames) }
  have hscan : ({ ofRoot root with state := .running, sources := sources.map Entry.name } :
      Workspace).scanSources storage schedule sources = (scanned, parsed) :=
    scanSources_eq _ _
  have hregister : parsed.foldl (fun w read => w.register read.1 read.2) scanned = registered := by
    have hempty : scanned.registry = .ofRegistry Registry.empty := rfl
    rw [foldl_register parsed scanned hempty]
    exact congrArg (fun includes => ({ registered with includes } : Workspace))
      (foldl_addIncluded root _ _)
  have hresolve : registered.resolveDependencies =
      { registered with registry := .ofRegistry (Analysis.registryOf
        (Analysis.definedModules parsed)) } := by
    rw [resolveDependencies, Arena.apply_resolveAll_ofRegistry]
    rfl
  simp only [analyze, Classification.sourceNames, hsources]
  rw [hscan]
  simp only [hregister, hresolve, intoBuckets_includesBucket]
  rfl

theorem ofRoot_eq_ofProject (root : Path) : ofRoot root = ofProject (.ofRoot root) := rfl

/-- The analysis of a workspace is that of its project. -/
theorem waitForAccomplish_ofProject (storage : Storage) (schedule : Schedule) (p : Project) :
    (ofProject p).waitForAccomplish storage schedule =
      (ofProject (p.analyze storage schedule).1, (p.analyze storage schedule).2) := by
  obtain ⟨root, progress⟩ := p
  cases progress with
  | idle =>
    have hidle : (ofProject ⟨root, .idle⟩).state = .idle := rfl
    rw [waitForAccomplish, if_pos hidle, Project.analyze]
    cases hlist : storage.list root with
    | error fault => simp only [ofProject, hlist]; rfl
    | ok entries =>
      have hanalyze := analyze_ofEntries storage schedule root entries
      rw [ofRoot_eq_ofProject] at hanalyze
      simp only [ofProject, hlist]
      exact congrArg (·, Except.ok ()) hanalyze
  | running => rfl
  | done analysis => rfl

theorem clear_ofProject (p : Project) : (ofProject p).clear = ofProject p.clear := rfl

/-- Changing the first bucket of a name leaves the nodes of the buckets that the change of the first
one of that name leaves. -/
theorem map_fst_changeBucket {α : Type} (name : String)
    {change : FolderNode → Option (FolderNode × α)}
    {change' : Folder → Option (Except Failure Folder)}
    (hchange : ∀ f, (change (.ofFolder f)).map Prod.fst =
      (change' f).map fun changed => .ofFolder (leftBy f changed)) (buckets : List Folder) :
    (changeBucket name change (buckets.map .ofFolder)).map Prod.fst =
      (Project.changeBucket name change' buckets).map fun changed =>
        (leftBy buckets changed).map .ofFolder := by
  induction buckets with
  | nil => rfl
  | cons f buckets ih =>
    rw [List.map_cons, changeBucket, Project.changeBucket, FolderNode.name_ofFolder]
    -- either this bucket is changed, or it stays in front of the others
    by_cases hname : f.name = name
    · have hcons := congrArg (Option.map (· :: buckets.map FolderNode.ofFolder)) (hchange f)
      simp only [if_pos hname, Option.map_map] at hcons ⊢
      refine hcons.trans (congrArg (Option.map · _) (funext fun changed => ?_))
      cases changed <;> rfl
    · have hcons := congrArg (Option.map (FolderNode.ofFolder f :: ·)) ih
      simp only [if_neg hname, Option.map_map] at hcons ⊢
      refine hcons.trans (congrArg (Option.map · _) (funext fun changed => ?_))
      cases changed <;> rfl

/-- Reading the children of a folder leaves the workspace of what the expansion of the project
leaves. -/
theorem map_fst_expand_ofProject (storage : Storage) (p : Project) (names : List String) :
    ((ofProject p).expand storage names).map Prod.fst =
      (p.expand storage names).map fun expanded => ofProject (leftBy p expanded) := by
  obtain ⟨root, progress⟩ := p
  cases names with
  | nil => cases progress <;> rfl
  | cons name names =>
    cases progress with
    | idle => rfl
    | running => rfl
    | done analysis =>
      have hbuckets := map_fst_changeBucket name (FolderNode.map_fst_expandAt storage names)
        analysis.buckets
      have houtside := congrArg (Option.map fun buckets =>
        ({ ofProject ⟨root, .done analysis⟩ with buckets } : Workspace)) hbuckets
      simp only [expand, Project.expand, Option.map_map] at houtside ⊢
      refine houtside.trans (congrArg (Option.map · _) (funext fun changed => ?_))
      cases changed <;> rfl

/-! ### Any requests -/

/-- The workspace after one request. -/
def answer (w : Workspace) : Project.Request → Workspace
  | .analyze storage schedule => (w.waitForAccomplish storage schedule).1
  | .clear => w.clear
  | .expand storage names => ((w.expand storage names).map Prod.fst).getD w

/-- The workspace after some requests, one behind the other. -/
def after (w : Workspace) (requests : List Project.Request) : Workspace :=
  requests.foldl answer w

theorem answer_ofProject (p : Project) (request : Project.Request) :
    (ofProject p).answer request = ofProject (p.answer request) := by
  cases request with
  | analyze storage schedule =>
    exact congrArg Prod.fst (waitForAccomplish_ofProject storage schedule p)
  | clear => exact clear_ofProject p
  | expand storage names =>
    rw [answer, map_fst_expand_ofProject, Project.answer]
    cases p.expand storage names with
    | none => rfl
    | some expanded => cases expanded <;> rfl

theorem after_ofProject (p : Project) (requests : List Project.Request) :
    (ofProject p).after requests = ofProject (p.after requests) :=
  List.foldl_hom ofProject answer_ofProject

/-- A workspace goes through the same states as a project. -/
theorem after_ofRoot (root : Path) (requests : List Project.Request) :
    (ofRoot root).after requests = ofProject ((Project.ofRoot root).after requests) :=
  after_ofProject (.ofRoot root) requests

/-- What a workspace shows after any requests is the project after these requests. -/
theorem project_after (root : Path) (requests : List Project.Request) :
    ((ofRoot root).after requests).project = (Project.ofRoot root).after requests := by
  rw [after_ofRoot, project_ofProject]

end Workspace

end DesignAtlas
