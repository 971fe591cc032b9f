import DesignAtlas.Proofs.Workspace.Requests
import Mathlib.Data.List.DropRight

/-!
# Epochs of a project

Clearing a project starts a new epoch. Within an epoch the first analysis decides how far the
project comes and what it finds, on the storage of that moment; later analyses do nothing, and
expansions change the buckets only.

* `relevant`: the requests that a project depends on.
* `answer_expand`: what an expansion can change.
* `after_eq_after_relevant`: all other requests might as well not have been made.
* `exists_after_of_list_ok`, `after_of_list_error`: what the first analysis leaves.
* `exists_after_of_done`: where a finished analysis comes from.
* `isEmpty_of_ne_done`: what a project holds whose analysis is not finished.
-/

namespace DesignAtlas.Project

/-! ### Epochs -/

namespace Request

/-- Whether a request forgets the analysis. -/
def isClear : Request → Bool
  | clear => true
  | _ => false

/-- Whether a request expands a folder. -/
def isExpansion : Request → Bool
  | expand _ _ => true
  | _ => false

/-- The storage that a request analyzes, and the order in which the reads finish. -/
def analyzed? : Request → Option (Storage × Schedule)
  | analyze storage schedule => some (storage, schedule)
  | _ => none

theorem exists_eq_expand {request : Request} (h : request.isExpansion = true) :
    ∃ storage names, request = expand storage names := by
  cases request with
  | expand storage names => exact ⟨storage, names, rfl⟩
  | _ => cases h

end Request

/-- The requests since the last clearing. -/
def sinceClear (requests : List Request) : List Request :=
  requests.rtakeWhile fun request => !request.isClear

/-- The storage of the first analysis since the last clearing, and the order in which the reads
finish. -/
def firstAnalysis? (requests : List Request) : Option (Storage × Schedule) :=
  (sinceClear requests).findSome? Request.analyzed?

/-- The expansions since the first analysis since the last clearing. -/
def expansions (requests : List Request) : List Request :=
  ((sinceClear requests).dropWhile fun request => request.analyzed?.isNone).filter
    Request.isExpansion

/-- What a project depends on: the first analysis since the last clearing, and the expansions
since. -/
def relevant (requests : List Request) : List Request :=
  match firstAnalysis? requests with
  | none => []
  | some (storage, schedule) => .analyze storage schedule :: expansions requests

variable {p : Project} {root : Path} {request : Request} {requests : List Request}

/-! ### One request -/

/-- An expansion leaves a project alone, or changes the buckets of a finished analysis. -/
theorem answer_expand (p : Project) (storage : Storage) (names : List String) :
    p.answer (.expand storage names) = p ∨ ∃ analysis buckets, p.progress = .done analysis ∧
      p.answer (.expand storage names) = ⟨p.root, .done { analysis with buckets }⟩ := by
  cases hexpand : p.expand storage names with
  | none => exact .inl (by simp only [answer, hexpand])
  | some result =>
    cases result with
    | error fault => exact .inl (by simp only [answer, hexpand])
    | ok expanded =>
      have hanswer : p.answer (.expand storage names) = expanded := by
        simp only [answer, hexpand]
      unfold expand at hexpand
      split at hexpand
      · next analysis _ _ hprogress =>
        obtain ⟨changed, -, hchanged⟩ := Option.map_eq_some_iff.1 hexpand
        cases changed with
        | error => cases hchanged
        | ok buckets =>
          cases hchanged
          exact .inr ⟨analysis, buckets, hprogress, hanswer⟩
      · cases hexpand

theorem answer_expand_of_ne_done (h : ∀ analysis, p.progress ≠ .done analysis) (storage : Storage)
    (names : List String) : p.answer (.expand storage names) = p := by
  rcases answer_expand p storage names with hsame | ⟨analysis, -, hdone, -⟩
  · exact hsame
  · exact absurd hdone (h analysis)

/-- Once started, an analysis is not started again. -/
theorem analyze_of_ne_idle (h : p.progress ≠ .idle) (storage : Storage) (schedule : Schedule) :
    p.analyze storage schedule = (p, .ok ()) := by
  unfold analyze
  split
  · next hidle => exact absurd hidle h
  · rfl

theorem progress_analyze_ne_idle (p : Project) (storage : Storage) (schedule : Schedule) :
    (p.analyze storage schedule).1.progress ≠ .idle := by
  unfold analyze
  split
  · split <;> exact nofun
  · next hne => exact hne

/-- Only a clearing makes a project idle again. -/
theorem progress_answer_ne_idle (h : p.progress ≠ .idle) (hclear : request.isClear = false) :
    (p.answer request).progress ≠ .idle := by
  cases request with
  | analyze storage schedule => exact progress_analyze_ne_idle p storage schedule
  | clear => cases hclear
  | expand storage names =>
    rcases answer_expand p storage names with hsame | ⟨analysis, buckets, -, hchanged⟩
    · rwa [hsame]
    · rw [hchanged]
      exact nofun

theorem root_answer (p : Project) (request : Request) : (p.answer request).root = p.root := by
  cases request with
  | analyze storage schedule => exact root_analyze storage schedule p
  | clear => rfl
  | expand storage names =>
    rcases answer_expand p storage names with hsame | ⟨analysis, buckets, -, hchanged⟩
    · rw [hsame]
    · rw [hchanged]

/-! ### Some requests -/

theorem after_concat (p : Project) (requests : List Request) (request : Request) :
    p.after (requests ++ [request]) = (p.after requests).answer request := by
  rw [after, List.foldl_append]
  rfl

theorem root_after (p : Project) (requests : List Request) : (p.after requests).root = p.root := by
  induction requests generalizing p with
  | nil => rfl
  | cons request requests ih => exact (ih (p.answer request)).trans (root_answer p request)

/-- Everything before the last clearing is forgotten. -/
theorem after_eq_after_sinceClear (root : Path) (requests : List Request) :
    (ofRoot root).after requests = (ofRoot root).after (sinceClear requests) := by
  induction requests using List.reverseRecOn with
  | nil => rfl
  | append_singleton requests request ih =>
    rw [after_concat, sinceClear, List.rtakeWhile_concat]
    cases hclear : request.isClear with
    | false => rw [Bool.not_false, if_pos rfl, after_concat, ih]; rfl
    | true =>
      cases request with
      | clear =>
        -- what is left of the project is its root
        have hroot : ((ofRoot root).after requests).root = root := root_after _ requests
        simp only [answer, clear, hroot]
        rfl
      | _ => cases hclear

/-- Behind a started analysis only the expansions matter until the next clearing. -/
theorem after_eq_after_filter (h : p.progress ≠ .idle)
    (hclear : ∀ request ∈ requests, request.isClear = false) :
    p.after requests = p.after (requests.filter Request.isExpansion) := by
  induction requests generalizing p with
  | nil => rfl
  | cons request requests ih =>
    have hnext : (p.answer request).progress ≠ .idle :=
      progress_answer_ne_idle h (hclear request (by simp))
    have hrest := ih hnext fun other hother => hclear other (by simp [hother])
    rw [List.filter_cons]
    cases request with
    | analyze storage schedule =>
      have hsame : p.answer (.analyze storage schedule) = p := by
        rw [answer, analyze_of_ne_idle h]
      rw [hsame] at hrest
      exact (congrArg (fun q => Project.after q requests) hsame).trans hrest
    | clear =>
      have hno : Request.clear.isClear = false := hclear .clear (by simp)
      cases hno
    | expand storage names => exact hrest

/-- Until something is analyzed, an idle project stays as it is. From then on only the expansions
matter. -/
theorem after_eq_of_idle (hidle : p.progress = .idle)
    (hclear : ∀ request ∈ requests, request.isClear = false) :
    p.after requests =
      match requests.findSome? Request.analyzed? with
      | none => p
      | some (storage, schedule) => p.after (.analyze storage schedule ::
          (requests.dropWhile fun request => request.analyzed?.isNone).filter
            Request.isExpansion) := by
  induction requests with
  | nil => rfl
  | cons request requests ih =>
    have hrest : ∀ other ∈ requests, other.isClear = false := fun other hother =>
      hclear other (by simp [hother])
    cases request with
    | analyze storage schedule =>
      exact after_eq_after_filter (progress_analyze_ne_idle p storage schedule) hrest
    | clear =>
      have hno : Request.clear.isClear = false := hclear .clear (by simp)
      cases hno
    | expand storage names =>
      have hsame : p.answer (.expand storage names) = p := by
        refine answer_expand_of_ne_done (fun analysis hdone => ?_) storage names
        rw [hidle] at hdone
        cases hdone
      exact (congrArg (fun q => Project.after q requests) hsame).trans (ih hrest)

/-- A project depends on the relevant requests only. -/
theorem after_eq_after_relevant (root : Path) (requests : List Request) :
    (ofRoot root).after requests = (ofRoot root).after (relevant requests) := by
  have hclear : ∀ request ∈ sinceClear requests, request.isClear = false := by
    intro request hrequest
    simpa using List.mem_rtakeWhile_imp hrequest
  rw [after_eq_after_sinceClear, after_eq_of_idle rfl hclear, relevant, firstAnalysis?]
  split <;> rfl

/-- Expansions leave a project alone that is not done. -/
theorem after_of_expansions_of_ne_done (hdone : ∀ analysis, p.progress ≠ .done analysis)
    (hexpansions : ∀ request ∈ requests, request.isExpansion = true) : p.after requests = p := by
  induction requests with
  | nil => rfl
  | cons request requests ih =>
    obtain ⟨storage, names, rfl⟩ := Request.exists_eq_expand (hexpansions request (by simp))
    have hsame := answer_expand_of_ne_done hdone storage names
    have hrest := ih fun other hother => hexpansions other (by simp [hother])
    exact (congrArg (fun q => Project.after q requests) hsame).trans hrest

/-- Expansions of a project that is done change its buckets only. -/
theorem exists_after_of_expansions (root : Path) (analysis : Analysis)
    (hexpansions : ∀ request ∈ requests, request.isExpansion = true) :
    ∃ buckets, (⟨root, .done analysis⟩ : Project).after requests =
      ⟨root, .done { analysis with buckets }⟩ := by
  induction requests generalizing analysis with
  | nil => exact ⟨analysis.buckets, rfl⟩
  | cons request requests ih =>
    have hrest : ∀ other ∈ requests, other.isExpansion = true := fun other hother =>
      hexpansions other (by simp [hother])
    obtain ⟨storage, names, rfl⟩ := Request.exists_eq_expand (hexpansions request (by simp))
    rw [after, List.foldl_cons]
    rcases answer_expand ⟨root, .done analysis⟩ storage names
      with hsame | ⟨found, buckets, hprogress, hchanged⟩
    · rw [hsame]
      exact ih analysis hrest
    · cases hprogress
      rw [hchanged]
      exact ih { analysis with buckets } hrest

/-! ### Any calls -/

/-- A project that is not done has no analysis. -/
theorem analysis?_of_ne_done (h : ∀ analysis, p.progress ≠ .done analysis) :
    p.analysis? = none := by
  unfold analysis?
  split
  · next analysis hprogress => exact absurd hprogress (h analysis)
  · rfl

theorem findModule_of_ne_done (h : ∀ analysis, p.progress ≠ .done analysis) (query : String) :
    p.findModule query = .error .notAnalyzed := by
  unfold findModule
  split
  · next analysis hprogress => exact absurd hprogress (h analysis)
  · rfl

theorem compileSet_of_ne_done (h : ∀ analysis, p.progress ≠ .done analysis) (id : ModuleId) :
    p.compileSet id = .error .notAnalyzed := by
  unfold compileSet
  split
  · next analysis hprogress => exact absurd hprogress (h analysis)
  · rfl

/-- A project that is not done holds nothing, and nothing is found in it. -/
theorem isEmpty_of_ne_done (h : ∀ analysis, p.progress ≠ .done analysis) :
    p.sources = [] ∧ p.registry = Registry.empty ∧ p.roots = [] ∧ p.includes = [] ∧
      p.buckets = [] ∧ p.skipped = [] ∧ (∀ query, p.findModule query = .error .notAnalyzed) ∧
      ∀ id, p.compileSet id = .error .notAnalyzed := by
  have hnone := analysis?_of_ne_done h
  refine ⟨?_, ?_, ?_, ?_, ?_, ?_, findModule_of_ne_done h, compileSet_of_ne_done h⟩
  all_goals simp only [sources, registry, roots, includes, buckets, skipped, hnone]; rfl

section FirstAnalysis

variable {storage : Storage} {schedule : Schedule}

theorem isExpansion_of_mem_expansions (h : request ∈ expansions requests) :
    request.isExpansion = true :=
  (List.mem_filter.1 h).2

/-- With an analysis a project is what that analysis left, after the expansions. -/
theorem after_eq_after_expansions (h : firstAnalysis? requests = some (storage, schedule)) :
    (ofRoot root).after requests =
      ((ofRoot root).analyze storage schedule).1.after (expansions requests) := by
  rw [after_eq_after_relevant, relevant, h]
  rfl

theorem after_of_list_error {fault : FileFault}
    (h : firstAnalysis? requests = some (storage, schedule))
    (hlist : storage.list root = .error fault) :
    (ofRoot root).after requests = ⟨root, .running⟩ := by
  rw [after_eq_after_expansions h, analyze_ofRoot_of_error hlist]
  exact after_of_expansions_of_ne_done nofun fun request => isExpansion_of_mem_expansions

/-- All but the buckets is what the analysis found. -/
theorem exists_after_of_list_ok {entries : List Entry}
    (h : firstAnalysis? requests = some (storage, schedule))
    (hlist : storage.list root = .ok entries) :
    ∃ buckets, (ofRoot root).after requests =
      ⟨root, .done { Analysis.ofEntries storage schedule root entries with buckets }⟩ := by
  rw [after_eq_after_expansions h, analyze_ofRoot_of_ok hlist]
  exact exists_after_of_expansions root _ fun request => isExpansion_of_mem_expansions

/-- A project that is done was analyzed, and all but its buckets is what was found then. -/
theorem exists_after_of_done {analysis : Analysis}
    (hdone : ((ofRoot root).after requests).progress = .done analysis) :
    ∃ storage schedule entries buckets, Request.analyze storage schedule ∈ requests ∧
      storage.list root = .ok entries ∧ (ofRoot root).after requests =
        ⟨root, .done { Analysis.ofEntries storage schedule root entries with buckets }⟩ := by
  cases hfirst : firstAnalysis? requests with
  | none =>
    rw [after_eq_after_relevant, relevant, hfirst] at hdone
    cases hdone
  | some first =>
    obtain ⟨storage, schedule⟩ := first
    obtain ⟨request, hrequest, hanalyzed⟩ := List.exists_of_findSome?_eq_some hfirst
    have hmem : Request.analyze storage schedule ∈ requests := by
      cases request with
      | analyze other otherSchedule =>
        cases hanalyzed
        exact (List.rtakeWhile_suffix _ _).mem hrequest
      | _ => cases hanalyzed
    cases hlist : storage.list root with
    | error fault =>
      rw [after_of_list_error hfirst hlist] at hdone
      cases hdone
    | ok entries =>
      obtain ⟨buckets, hafter⟩ := exists_after_of_list_ok hfirst hlist
      exact ⟨storage, schedule, entries, buckets, hmem, hlist, hafter⟩

end FirstAnalysis

end DesignAtlas.Project
