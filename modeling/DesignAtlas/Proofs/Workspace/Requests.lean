import DesignAtlas.Proofs.Design.Reachability
import DesignAtlas.Workspace.Project

/-!
# Requests to a project

A project is made for a root directory and then analyzed, cleared and expanded any number of times,
while the storage may change. Whatever happens, its registry is the linked registry of some
modules.

* `Project.Request`: what can be asked of a project.
* `Project.after`: a project after some requests.
* `isLinked_after`: the registry of a project after any requests.
-/

namespace DesignAtlas

namespace Project

/-- What can be asked of a project. Every request finds its own state of the storage. -/
inductive Request where
  /-- Analyze the project. The reads of its source files finish in some order. -/
  | analyze (storage : Storage) (schedule : Schedule)
  /-- Forget the analysis. -/
  | clear
  /-- Expand the folder that names lead to. -/
  | expand (storage : Storage) (names : List String)

/-- The project after one request. An expansion that fails or leads to no folder leaves it as it
was. -/
def answer (p : Project) : Request → Project
  | .analyze storage schedule => (p.analyze storage schedule).1
  | .clear => p.clear
  | .expand storage names =>
    match p.expand storage names with
    | some (.ok expanded) => expanded
    | _ => p

/-- The project after some requests, one behind the other. -/
def after (p : Project) (requests : List Request) : Project :=
  requests.foldl answer p

/-- The registry of a project is the linked registry of some modules. -/
def IsLinked (p : Project) : Prop :=
  ∃ modules, p.registry = Analysis.registryOf modules

variable {p expanded : Project} {storage : Storage} {schedule : Schedule}

/-- The first analysis of a root that can be listed is finished. -/
theorem analyze_ofRoot_of_ok {root : Path} {entries : List Entry}
    (hlist : storage.list root = .ok entries) :
    (ofRoot root).analyze storage schedule =
      (⟨root, .done (Analysis.ofEntries storage schedule root entries)⟩, .ok ()) := by
  simp only [Project.analyze, ofRoot, hlist]

/-- If the root cannot be listed, the first analysis fails and stays unfinished. -/
theorem analyze_ofRoot_of_error {root : Path} {fault : FileFault}
    (hlist : storage.list root = .error fault) :
    (ofRoot root).analyze storage schedule = (⟨root, .running⟩, .error (.file root fault)) := by
  simp only [Project.analyze, ofRoot, hlist]

theorem registry_of_done {analysis : Analysis} (h : p.progress = .done analysis) :
    p.registry = analysis.registry := by
  rw [registry, analysis?, h]
  rfl

/-- A project that is not done has no modules. -/
theorem isLinked_of_analysis?_eq_none (h : p.analysis? = none) : p.IsLinked :=
  ⟨[], by rw [registry, h]; rfl⟩

theorem isLinked_ofRoot (root : Path) : (ofRoot root).IsLinked :=
  isLinked_of_analysis?_eq_none rfl

theorem isLinked_clear (p : Project) : p.clear.IsLinked :=
  isLinked_of_analysis?_eq_none rfl

theorem IsLinked.analyze (h : p.IsLinked) (storage : Storage) (schedule : Schedule) :
    (p.analyze storage schedule).1.IsLinked := by
  unfold Project.analyze
  split
  · split
    · exact ⟨_, rfl⟩
    · exact isLinked_of_analysis?_eq_none rfl
  · exact h

/-- An expansion changes the buckets only. -/
theorem registry_of_expand {names : List String}
    (h : p.expand storage names = some (.ok expanded)) : expanded.registry = p.registry := by
  unfold expand at h
  split at h
  · next analysis _ _ hprogress =>
    obtain ⟨changed, -, hchanged⟩ := Option.map_eq_some_iff.1 h
    cases changed with
    | error => cases hchanged
    | ok buckets =>
      cases hchanged
      rw [registry_of_done hprogress]
      rfl
  · cases h

/-- Every request keeps the registry a linked one. -/
theorem IsLinked.answer (h : p.IsLinked) (request : Request) : (p.answer request).IsLinked := by
  cases request with
  | analyze storage schedule => exact h.analyze storage schedule
  | clear => exact isLinked_clear p
  | expand storage names =>
    simp only [Project.answer]
    split
    · next expanded hexpand =>
      obtain ⟨modules, hmodules⟩ := h
      exact ⟨modules, (registry_of_expand hexpand).trans hmodules⟩
    · exact h

/-- After any requests the registry of a project is a linked one. -/
theorem isLinked_after (root : Path) (requests : List Request) :
    ((ofRoot root).after requests).IsLinked := by
  have hkeeps : ∀ p : Project, p.IsLinked → (p.after requests).IsLinked := by
    induction requests with
    | nil => exact fun p h => h
    | cons request requests ih => exact fun p h => ih (p.answer request) (h.answer request)
  exact hkeeps _ (isLinked_ofRoot root)

/-- After any requests instantiations are recorded between known modules only. -/
theorem isClosed_registry_after (root : Path) (requests : List Request) :
    ((ofRoot root).after requests).registry.IsClosed := by
  obtain ⟨modules, hmodules⟩ := isLinked_after root requests
  rw [hmodules]
  exact Registry.isClosed_link (Registry.instantiations_foldl_register modules Registry.empty)

end Project

end DesignAtlas
