import DesignAtlas.Workspace.Analysis
import Mathlib.Data.List.Basic
import Mathlib.Data.List.Induction

/-!
# Reading the sources

All sources are read at once and the reads finish in any order. Each finished read is put at the
place of its file, so the order does not matter: every file that can be read is there with what was
read from it, and the files stand in their own order.

* `SourceRead`: a source file with the outcome of its read.
* `Finished`: all reads have finished, in some order.
* `getElem?_foldl_fill`: what the places hold when some of the reads have finished.
* `parsedSources_of_finished`: what is there when all of them have.
* `finished_arrivals`, `parsedSources_eq`: the sources that are read on a storage, for every
  schedule.
* `flatMap_parsedSources`: what is collected from them.
-/

namespace DesignAtlas

/-- The reads finish in the opposite order of the one they are started in. -/
def Schedule.backwards : Schedule :=
  ⟨fun count => (List.range count).reverse, fun _ => List.reverse_perm _⟩

/-- A source file and how the read of it ends. -/
structure SourceRead where
  /-- The source file. -/
  source : Entry
  /-- What is read, or why nothing is. -/
  outcome : Except FileFault Parsed

/-- A source file with what is read from it, if it can be read. -/
def SourceRead.parsed? (read : SourceRead) : Option (Entry × Parsed) :=
  read.outcome.toOption.map fun parsed => (read.source, parsed)

namespace Analysis

/-- All reads have finished, each of them once, in whatever order. -/
def Finished (reads : List SourceRead) (arrivals : List Arrival) : Prop :=
  arrivals.Perm (reads.mapIdx fun place read => ⟨place, read.outcome⟩)

/-- Put one finished read at its place. -/
def fill (slots : List (Option Parsed)) (arrival : Arrival) : List (Option Parsed) :=
  match arrival.outcome with
  | .ok parsed => slots.set arrival.place (some parsed)
  | .error _ => slots

section Finished

variable {reads : List SourceRead} {arrivals : List Arrival}

/-! ### Finished reads -/

/-- Every finished read is that of the file at its place. -/
theorem Finished.exists_read (h : Finished reads arrivals) {arrival : Arrival}
    (harrival : arrival ∈ arrivals) :
    ∃ read, reads[arrival.place]? = some read ∧ read.outcome = arrival.outcome := by
  obtain ⟨place, hplace, rfl⟩ := List.mem_mapIdx.1 (h.mem_iff.1 harrival)
  exact ⟨reads[place], List.getElem?_eq_getElem hplace, rfl⟩

/-- For every file a read has finished. -/
theorem Finished.mem_map_place_iff (h : Finished reads arrivals) {place : Nat} :
    place ∈ arrivals.map Arrival.place ↔ place < reads.length := by
  rw [(h.map Arrival.place).mem_iff, List.mem_map]
  constructor
  · rintro ⟨arrival, harrival, rfl⟩
    obtain ⟨place, hplace, rfl⟩ := List.mem_mapIdx.1 harrival
    exact hplace
  · intro hplace
    exact ⟨_, List.mem_mapIdx.2 ⟨place, hplace, rfl⟩, rfl⟩

/-! ### The places of the files -/

/-- A finished read changes its own place only, and only if something was read. -/
theorem getElem?_fill (slots : List (Option Parsed)) (arrival : Arrival) (i : Nat) :
    (fill slots arrival)[i]? =
      if arrival.place = i then slots[i]?.map fun old => arrival.outcome.toOption.or old
      else slots[i]? := by
  unfold fill
  cases arrival.outcome with
  | error fault => simp [Except.toOption]
  | ok parsed =>
    simp only [Except.toOption, Option.some_or, List.getElem?_set]
    by_cases hplace : arrival.place = i
    · rw [if_pos hplace, if_pos hplace, hplace]
      by_cases hlt : i < slots.length
      · rw [if_pos hlt, List.getElem?_eq_getElem hlt, Option.map_some]
      · rw [if_neg hlt, List.getElem?_eq_none (Nat.le_of_not_lt hlt), Option.map_none]
    · rw [if_neg hplace, if_neg hplace]

/-- When some reads have finished, in whatever order, the places of their files hold what was read
from them, and the other places are as they were. -/
theorem getElem?_foldl_fill
    (h : ∀ arrival ∈ arrivals, ∃ read, reads[arrival.place]? = some read ∧
      read.outcome = arrival.outcome) (slots : List (Option Parsed)) (i : Nat) :
    (arrivals.foldl fill slots)[i]? =
      if i ∈ arrivals.map Arrival.place then
        slots[i]?.map fun old => (reads[i]?.bind fun read => read.outcome.toOption).or old
      else slots[i]? := by
  induction arrivals generalizing slots with
  | nil => simp
  | cons arrival arrivals ih =>
    obtain ⟨read, hread, houtcome⟩ := h arrival List.mem_cons_self
    have hrest := ih fun other hother => h other (List.mem_cons_of_mem arrival hother)
    rw [List.foldl_cons, hrest, getElem?_fill, ← houtcome]
    by_cases hi : arrival.place = i
    · subst hi
      by_cases hmem : arrival.place ∈ arrivals.map Arrival.place
      · -- another read of the same file found the same
        simp [hmem, hread, Function.comp_def, ← Option.or_assoc]
      · simp [hmem, hread]
    · simp [hi, Ne.symm hi]

/-- When all reads have finished, the places hold what was read from the files. -/
theorem slots_of_finished (h : Finished reads arrivals) :
    slots reads.length arrivals = reads.map fun read => read.outcome.toOption := by
  have hfoldl : slots reads.length arrivals =
      arrivals.foldl fill (List.replicate reads.length none) := rfl
  refine List.ext_getElem? fun i => ?_
  rw [hfoldl, getElem?_foldl_fill fun arrival harrival => h.exists_read harrival,
    List.getElem?_map]
  by_cases hi : i < reads.length
  · rw [if_pos (h.mem_map_place_iff.2 hi), List.getElem?_replicate_of_lt hi,
      List.getElem?_eq_getElem hi]
    simp
  · have hnone : reads[i]? = none := List.getElem?_eq_none (Nat.le_of_not_lt hi)
    rw [if_neg (h.mem_map_place_iff.not.2 hi), List.getElem?_eq_none (by simpa using hi), hnone,
      Option.map_none]

/-- When all reads have finished, in whatever order, the sources that were read are those that can
be read. They stand in their own order, each with what was read from it. -/
theorem parsedSources_of_finished (h : Finished reads arrivals) :
    parsedSources (reads.map SourceRead.source) arrivals =
      reads.filterMap SourceRead.parsed? := by
  rw [parsedSources, List.length_map, slots_of_finished h, List.zip_map', List.filterMap_map]
  rfl

end Finished

/-! ### Reads on a storage -/

variable {storage : Storage} {schedule : Schedule} {sources : List Entry}

/-- What is read from a source, if it can be read. -/
def parsed? (storage : Storage) (source : Entry) : Option Parsed :=
  (storage.read source.path).toOption.map Parsed.ofBytes

/-- The reads of some sources. -/
def readsOf (storage : Storage) (sources : List Entry) : List SourceRead :=
  sources.map fun source => ⟨source, (storage.read source.path).map Parsed.ofBytes⟩

@[simp]
theorem map_source_readsOf (storage : Storage) (sources : List Entry) :
    (readsOf storage sources).map SourceRead.source = sources := by
  rw [readsOf, List.map_map]
  exact List.map_id sources

theorem filterMap_range_getElem? {α β : Type} (f : Nat → α → β) (l : List α) :
    ((List.range l.length).filterMap fun place => l[place]?.map (f place)) = l.mapIdx f := by
  induction l using List.reverseRecOn with
  | nil => rfl
  | append_singleton l a ih =>
    have hfront : ∀ place ∈ List.range l.length,
        (l ++ [a])[place]?.map (f place) = l[place]?.map (f place) := by
      intro place hplace
      rw [List.getElem?_append_left (List.mem_range.1 hplace)]
    rw [List.length_append, List.length_singleton, List.range_succ, List.filterMap_append,
      List.filterMap_congr hfront, ih, List.mapIdx_append]
    simp

/-- All reads of the sources have finished, whatever the schedule is. -/
theorem finished_arrivals (storage : Storage) (schedule : Schedule) (sources : List Entry) :
    Finished (readsOf storage sources) (arrivals storage schedule sources) := by
  refine ((schedule.perm sources.length).filterMap _).trans ?_
  rw [filterMap_range_getElem? fun place (source : Entry) =>
    (⟨place, (storage.read source.path).map Parsed.ofBytes⟩ : Arrival)]
  refine List.Perm.of_eq (List.ext_getElem? fun i => ?_)
  simp [readsOf, Function.comp_def]

/-- The sources that were read are those that can be read, in their own order. -/
theorem parsedSources_eq (storage : Storage) (schedule : Schedule) (sources : List Entry) :
    parsedSources sources (arrivals storage schedule sources) =
      sources.filterMap fun source =>
        (parsed? storage source).map fun parsed => (source, parsed) := by
  have hparsed := parsedSources_of_finished (finished_arrivals storage schedule sources)
  rw [map_source_readsOf, readsOf, List.filterMap_map] at hparsed
  rw [hparsed]
  refine List.filterMap_congr fun source _ => ?_
  rw [Function.comp_apply, SourceRead.parsed?, parsed?]
  cases storage.read source.path <;> rfl

/-- What is collected from the sources that were read is collected from those that can be read, one
behind the other. -/
theorem flatMap_parsedSources (storage : Storage) (schedule : Schedule) (sources : List Entry)
    {α : Type} (collect : Entry × Parsed → List α) :
    (parsedSources sources (arrivals storage schedule sources)).flatMap collect =
      sources.flatMap fun source =>
        (parsed? storage source).elim [] fun parsed => collect (source, parsed) := by
  rw [parsedSources_eq]
  induction sources with
  | nil => rfl
  | cons source sources ih =>
    rw [List.flatMap_cons, ← ih, List.filterMap_cons]
    cases parsed? storage source <;> rfl

end Analysis

end DesignAtlas
