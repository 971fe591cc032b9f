import DesignAtlas.Proofs.Workspace.Reads
import DesignAtlas.Report.Document
import Mathlib.Data.List.Nodup

/-!
# The order in which reads finish

The reads of the source files finish in any order. What was read stands at the places of the files,
so nothing that is made of it depends on that order. The files that cannot be read have no places:
each is noted down when its read fails, so they stand in the order in which the reads fail.

* `parsedSources_of_finished_reads`: what was read, and all that is made of it.
* `SourceRead.fault?`, `Arrival.isFailed`: reads that fail, before and after they finish.
* `unreadable_perm`: the files that cannot be read are noted down, each once.
* `skipped_of_finished`: they stand in the order of the source files exactly if their reads fail in
  that order.
* `skipped_backwards`: so one directory has several documents.
-/

namespace DesignAtlas

/-- The path of a source file with the reason why it cannot be read. -/
def SourceRead.fault? (read : SourceRead) : Option (Path × FileFault) :=
  match read.outcome with
  | .ok _ => none
  | .error fault => some (read.source.path, fault)

/-- Whether nothing was read. -/
def Arrival.isFailed (arrival : Arrival) : Bool :=
  match arrival.outcome with
  | .ok _ => false
  | .error _ => true

namespace Analysis

variable {reads : List SourceRead} {arrivals : List Arrival}

/-! ### What was read -/

/-- In whatever order the reads finish, the sources that were read are those that can be read. They
stand in their own order, each with what was read from it. So the modules with their ids, their
instantiations, the roots and the included files do not depend on that order. -/
theorem parsedSources_of_finished_reads (h : Finished reads arrivals) :
    parsedSources (reads.map SourceRead.source) arrivals = reads.filterMap SourceRead.parsed? ∧
      ∀ others root entries, Finished reads others →
        Listing.sources entries = reads.map SourceRead.source →
          let p : Project := ⟨root, .done (ofArrivals root entries arrivals)⟩
          let q : Project := ⟨root, .done (ofArrivals root entries others)⟩
          p.registry = q.registry ∧ p.roots = q.roots ∧ p.includes = q.includes := by
  refine ⟨parsedSources_of_finished h, fun others root entries hothers hsources => ?_⟩
  intro p q
  have hparsed : parsedSources (Listing.sources entries) arrivals =
      parsedSources (Listing.sources entries) others := by
    rw [hsources, parsedSources_of_finished h, parsedSources_of_finished hothers]
  have hregistry : p.registry = q.registry :=
    congrArg (fun parsed => registryOf (definedModules parsed)) hparsed
  refine ⟨hregistry, congrArg Registry.roots hregistry, ?_⟩
  exact congrArg (fun parsed : List (Entry × Parsed) =>
    includedFiles root ((Listing.sources entries).map Entry.name)
      (parsed.flatMap fun source => source.2.includedNames)) hparsed

/-- The reads of three source files, the second of which cannot be read. -/
def threeReads : List SourceRead :=
  [⟨⟨"a.v", ⟨"p/a.v"⟩, false⟩, .ok ⟨[⟨"m", "", 0⟩], []⟩⟩,
    ⟨⟨"b.v", ⟨"p/b.v"⟩, false⟩, .error .denied⟩,
    ⟨⟨"c.v", ⟨"p/c.v"⟩, false⟩, .ok ⟨[⟨"n", " m u();", 2⟩], ["b.v"]⟩⟩]

/-- The last read finishes first. -/
theorem parsedSources_of_finished_reads_backwards :
    let arrivals := (threeReads.mapIdx fun place read => Arrival.mk place read.outcome).reverse
    Finished threeReads arrivals ∧
      parsedSources (threeReads.map SourceRead.source) arrivals =
        [(⟨"a.v", ⟨"p/a.v"⟩, false⟩, ⟨[⟨"m", "", 0⟩], []⟩),
          (⟨"c.v", ⟨"p/c.v"⟩, false⟩, ⟨[⟨"n", " m u();", 2⟩], ["b.v"]⟩)] := by
  intro arrivals
  have hfinished : Finished threeReads arrivals := List.reverse_perm _
  exact ⟨hfinished, (parsedSources_of_finished_reads hfinished).1⟩

/-! ### What could not be read -/

theorem filterMap_range_bind {α β : Type} (f : α → Option β) (l : List α) :
    ((List.range l.length).filterMap fun place => l[place]?.bind f) = l.filterMap f := by
  have hl : ((List.range l.length).filterMap fun place => l[place]?) = l := by
    have hmapIdx : (l.mapIdx fun _ a => a) = l := List.ext_getElem? fun i => by simp
    simpa [hmapIdx] using filterMap_range_getElem? (fun _ a => a) l
  conv_rhs => rw [← hl]
  rw [List.filterMap_filterMap]

/-- If the reads finish in the order of the files, the files that cannot be read are noted down in
that order. -/
theorem unreadable_mapIdx (reads : List SourceRead) :
    unreadable (reads.map SourceRead.source)
        (reads.mapIdx fun place read => ⟨place, read.outcome⟩) =
      reads.filterMap SourceRead.fault? := by
  rw [unreadable, ← filterMap_range_getElem?, List.filterMap_filterMap,
    ← filterMap_range_bind SourceRead.fault?]
  refine List.filterMap_congr fun place _ => ?_
  cases hread : reads[place]? with
  | none => rfl
  | some read =>
    have hsource : (reads.map SourceRead.source)[place]? = some read.source := by
      rw [List.getElem?_map, hread, Option.map_some]
    simp only [Option.map_some, Option.bind_some, hsource, SourceRead.fault?]
    cases read.outcome <;> rfl

/-- In whatever order the reads finish, the files that cannot be read are noted down, each once. -/
theorem unreadable_perm (h : Finished reads arrivals) :
    (unreadable (reads.map SourceRead.source) arrivals).Perm
      (reads.filterMap SourceRead.fault?) := by
  rw [← unreadable_mapIdx]
  exact h.filterMap _

/-- Only the reads that fail matter for what is noted down. -/
theorem unreadable_filter (sources : List Entry) (arrivals : List Arrival) :
    unreadable sources (arrivals.filter Arrival.isFailed) = unreadable sources arrivals := by
  rw [unreadable, unreadable, List.filterMap_filter]
  refine List.filterMap_congr fun arrival _ => ?_
  rw [Arrival.isFailed]
  cases arrival.outcome <;> rfl

/-- In the order of the files the places increase. -/
theorem pairwise_place_mapIdx (reads : List SourceRead) :
    (reads.mapIdx fun place read => Arrival.mk place read.outcome).Pairwise
      fun arrival other => arrival.place < other.place := by
  rw [List.pairwise_iff_getElem]
  intro i j hi hj hij
  rw [List.getElem_mapIdx, List.getElem_mapIdx]
  exact hij

/-- If the reads that fail finish in the order of the files, the files are noted down in that
order. -/
theorem unreadable_of_pairwise (h : Finished reads arrivals)
    (horder : (arrivals.filter Arrival.isFailed).Pairwise
      fun arrival other => arrival.place < other.place) :
    unreadable (reads.map SourceRead.source) arrivals = reads.filterMap SourceRead.fault? := by
  have hfailed : arrivals.filter Arrival.isFailed =
      (reads.mapIdx fun place read => Arrival.mk place read.outcome).filter Arrival.isFailed :=
    -- two orders in which the places increase are the same
    List.Perm.eq_of_pairwise (fun _ _ _ _ hlt hgt => absurd hgt (Nat.lt_asymm hlt)) horder
      ((pairwise_place_mapIdx reads).filter _) (h.filter _)
  rw [← unreadable_filter, hfailed, unreadable_filter, unreadable_mapIdx]

/-- If no two files have the same path, the path of a file stands at the place of the file. -/
theorem idxOf_path_source (hpaths : (reads.map fun read => read.source.path).Nodup) {place : Nat}
    {read : SourceRead} (hread : reads[place]? = some read) :
    (reads.map fun read => read.source.path).idxOf read.source.path = place := by
  obtain ⟨hplace, rfl⟩ := List.getElem?_eq_some_iff.1 hread
  have hlt : place < (reads.map fun read => read.source.path).length := by
    rwa [List.length_map]
  have hidxOf := hpaths.idxOf_getElem place hlt
  rwa [List.getElem_map] at hidxOf

/-- If no two files have the same path, the paths that are noted down tell the order in which the
reads fail. -/
theorem map_idxOf_unreadable (hpaths : (reads.map fun read => read.source.path).Nodup)
    (h : Finished reads arrivals) :
    ((unreadable (reads.map SourceRead.source) arrivals).map Prod.fst).map
        (reads.map fun read => read.source.path).idxOf =
      (arrivals.filter Arrival.isFailed).map Arrival.place := by
  have hreads : ∀ arrival ∈ arrivals, ∃ read, reads[arrival.place]? = some read ∧
      read.outcome = arrival.outcome := fun _ harrival => h.exists_read harrival
  clear h
  induction arrivals with
  | nil => rfl
  | cons arrival arrivals ih =>
    have hrest := ih fun other hother => hreads other (List.mem_cons_of_mem arrival hother)
    obtain ⟨read, hread, -⟩ := hreads arrival List.mem_cons_self
    cases houtcome : arrival.outcome with
    | ok parsed =>
      have hfailed : arrival.isFailed = false := by rw [Arrival.isFailed, houtcome]
      rw [List.filter_cons_of_neg (by simp [hfailed]), ← hrest, unreadable,
        List.filterMap_cons_none (by rw [houtcome])]
      rfl
    | error fault =>
      have hfailed : arrival.isFailed = true := by rw [Arrival.isFailed, houtcome]
      rw [List.filter_cons_of_pos hfailed, List.map_cons, ← hrest,
        ← idxOf_path_source hpaths hread, unreadable,
        List.filterMap_cons_some (b := (read.source.path, fault))
          (by rw [houtcome, List.getElem?_map, hread]; rfl)]
      rfl

/-- In whatever order the reads finish, the files that cannot be read are skipped, each once. They
stand in the order of the source files exactly if the reads that fail finish in that order. -/
theorem skipped_of_finished (h : Finished reads arrivals) (root : Path) (entries : List Entry)
    (hsources : Listing.sources entries = reads.map SourceRead.source) :
    let skipped := (ofArrivals root entries arrivals).skipped
    let failing := (reads.filterMap SourceRead.fault?).map Prod.fst
    skipped.Perm failing ∧
      ((reads.map fun read => read.source.path).Nodup →
        (skipped = failing ↔ (arrivals.filter Arrival.isFailed).Pairwise
          fun arrival other => arrival.place < other.place)) := by
  intro skipped failing
  have hskipped : skipped =
      (unreadable (reads.map SourceRead.source) arrivals).map Prod.fst := by
    rw [← hsources]
    rfl
  refine ⟨hskipped ▸ (unreadable_perm h).map Prod.fst, fun hpaths => ⟨fun heq => ?_, ?_⟩⟩
  · -- the same paths in the same order tell the same order of places
    have hordered : Finished reads (reads.mapIdx fun place read => ⟨place, read.outcome⟩) :=
      List.Perm.refl _
    have hplaces := map_idxOf_unreadable hpaths h
    have hinOrder := map_idxOf_unreadable hpaths hordered
    rw [unreadable_mapIdx] at hinOrder
    have hsame : (arrivals.filter Arrival.isFailed).map Arrival.place =
        ((reads.mapIdx fun place read => Arrival.mk place read.outcome).filter
          Arrival.isFailed).map Arrival.place := by
      rw [← hplaces, ← hinOrder, ← hskipped, heq]
    have hincreasing := List.pairwise_map.2 ((pairwise_place_mapIdx reads).filter Arrival.isFailed)
    rw [← hsame] at hincreasing
    exact List.pairwise_map.1 hincreasing
  · intro horder
    rw [hskipped, unreadable_of_pairwise h horder]

/-- Two source files. -/
def twoSources : List Entry :=
  [⟨"a.v", ⟨"p/a.v"⟩, false⟩, ⟨"b.v", ⟨"p/b.v"⟩, false⟩]

/-- A directory with two source files that cannot be read. -/
def unreadableSources : Storage where
  list := fun _ => .ok twoSources
  read := fun _ => .error .denied
  isFile := fun _ => true

/-- The reads finish from the last one to the first one, and the files are skipped in another order
than that of the source files. -/
theorem skipped_of_finished_backwards :
    let reads := readsOf unreadableSources twoSources
    let arrivals := Analysis.arrivals unreadableSources .backwards twoSources
    Finished reads arrivals ∧ Listing.sources twoSources = reads.map SourceRead.source ∧
      (ofArrivals ⟨"p"⟩ twoSources arrivals).skipped.Perm
        ((reads.filterMap SourceRead.fault?).map Prod.fst) ∧
      (ofArrivals ⟨"p"⟩ twoSources arrivals).skipped ≠
        (reads.filterMap SourceRead.fault?).map Prod.fst := by
  intro reads arrivals
  have hfinished : Finished reads arrivals :=
    finished_arrivals unreadableSources .backwards twoSources
  have hsources : Listing.sources twoSources = reads.map SourceRead.source := by
    rw [map_source_readsOf]
    decide +kernel
  obtain ⟨hperm, hiff⟩ := skipped_of_finished hfinished ⟨"p"⟩ twoSources hsources
  refine ⟨hfinished, hsources, hperm, fun heq => ?_⟩
  have hincreasing := (hiff (by decide +kernel)).1 heq
  exact absurd (List.pairwise_map.2 hincreasing) (by decide +kernel)

/-- The same directory is read twice. All reads finish both times, in different orders, and the
skipped files and the documents differ. -/
theorem skipped_backwards :
    let p := ((Project.ofRoot ⟨"p"⟩).analyze unreadableSources .inOrder).1
    let q := ((Project.ofRoot ⟨"p"⟩).analyze unreadableSources .backwards).1
    p.sources = ["a.v", "b.v"] ∧ q.sources = ["a.v", "b.v"] ∧
      p.skipped = [⟨"p/a.v"⟩, ⟨"p/b.v"⟩] ∧ q.skipped = [⟨"p/b.v"⟩, ⟨"p/a.v"⟩] ∧
      p.document .compact ≠ q.document .compact := by
  decide +kernel

end Analysis

end DesignAtlas
