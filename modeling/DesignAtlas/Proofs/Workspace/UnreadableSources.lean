import DesignAtlas.Proofs.Workspace.DefinedModules
import DesignAtlas.Proofs.Workspace.ReadOrder
import DesignAtlas.Report.Outline

/-!
# Unreadable source files

From a source file that cannot be read as much is taken as from an empty one: nothing. Its name
stays among the names of the source files, so it can still be included. The only trace of the
failure is in the list of skipped files.

* `Storage.EmptiedIn`: two storages that differ in files that cannot be read or are empty.
* `elim_parsed?_of_emptiedIn`: the same is taken from every source file of both.
* `ofEntries_of_emptiedIn`: so the analyses differ in the skipped files only.
* `skipped_perm_of_emptiedIn`: what is skipped in the one and not in the other.
* `analyze_of_emptiedIn`: two projects on such storages.
-/

namespace DesignAtlas

/-- Some source files cannot be read on one storage and are empty on the other. Of all other source
files both storages tell the same. -/
structure Storage.EmptiedIn (storage emptied : Storage) (failing : Entry → Bool)
    (sources : List Entry) : Prop where
  /-- The files cannot be read on the one storage. -/
  unreadable : ∀ source ∈ sources, failing source = true →
    ∃ fault, storage.read source.path = .error fault
  /-- They are empty on the other one. -/
  empty : ∀ source ∈ sources, failing source = true → emptied.read source.path = .ok []
  /-- The others are the same. -/
  same : ∀ source ∈ sources, failing source = false →
    storage.read source.path = emptied.read source.path

namespace Analysis

variable {storage emptied : Storage} {schedule schedule' : Schedule} {failing : Entry → Bool}
  {root : Path} {sources : List Entry} {entries : List Entry} {source : Entry}

/-! ### What is taken from a source file -/

/-- Nothing is taken from an empty file. -/
theorem ofBytes_nil : Parsed.ofBytes [] = ⟨[], []⟩ := by
  decide +kernel

/-- A source file that cannot be read brings as much as an empty one. -/
theorem elim_parsed?_of_emptiedIn (h : storage.EmptiedIn emptied failing sources)
    (hsource : source ∈ sources) {α : Type} (collect : Parsed → List α)
    (hempty : collect ⟨[], []⟩ = []) :
    (parsed? storage source).elim [] collect = (parsed? emptied source).elim [] collect := by
  rw [parsed?, parsed?]
  cases hfailing : failing source with
  | false => rw [h.same source hsource hfailing]
  | true =>
    obtain ⟨fault, hfault⟩ := h.unreadable source hsource hfailing
    rw [hfault, h.empty source hsource hfailing]
    show [] = collect (Parsed.ofBytes [])
    rw [ofBytes_nil, hempty]

/-- The source files bring the same modules and included names. -/
theorem flatMap_parsedSources_of_emptiedIn (h : storage.EmptiedIn emptied failing sources)
    {α : Type} (collect : Entry × Parsed → List α)
    (hempty : ∀ source, collect (source, ⟨[], []⟩) = []) :
    (parsedSources sources (arrivals storage schedule sources)).flatMap collect =
      (parsedSources sources (arrivals emptied schedule' sources)).flatMap collect := by
  rw [flatMap_parsedSources, flatMap_parsedSources]
  exact List.flatMap_congr fun source hsource =>
    elim_parsed?_of_emptiedIn h hsource (fun parsed => collect (source, parsed)) (hempty source)

/-- The analyses of a directory differ in the skipped files only. -/
theorem ofEntries_of_emptiedIn
    (h : storage.EmptiedIn emptied failing (Listing.sources entries)) :
    ofEntries storage schedule root entries =
      { ofEntries emptied schedule' root entries with
        skipped := (ofEntries storage schedule root entries).skipped } := by
  let sources := Listing.sources entries
  have hdefined : definedModules (parsedSources sources (arrivals storage schedule sources)) =
      definedModules (parsedSources sources (arrivals emptied schedule' sources)) :=
    flatMap_parsedSources_of_emptiedIn h
      (fun source => source.2.definitions.map (moduleOf source.1)) fun _ => rfl
  have hnames : (parsedSources sources (arrivals storage schedule sources)).flatMap
        (fun source => source.2.includedNames) =
      (parsedSources sources (arrivals emptied schedule' sources)).flatMap
        (fun source => source.2.includedNames) :=
    flatMap_parsedSources_of_emptiedIn h (fun source => source.2.includedNames) fun _ => rfl
  simp only [sources] at hdefined hnames
  simp only [ofEntries, ofArrivals, hdefined, hnames]

/-! ### What is skipped -/

/-- The source files that cannot be read are skipped, each once. -/
theorem skipped_perm (storage : Storage) (schedule : Schedule) (root : Path)
    (entries : List Entry) :
    (ofEntries storage schedule root entries).skipped.Perm
      (((Listing.sources entries).filter fun source => (parsed? storage source).isNone).map
        Entry.path) := by
  have hfinished := finished_arrivals storage schedule (Listing.sources entries)
  have hperm := (unreadable_perm hfinished).map Prod.fst
  rw [map_source_readsOf] at hperm
  refine hperm.trans (List.Perm.of_eq ?_)
  rw [readsOf, List.filterMap_map, List.map_filterMap, ← List.filterMap_eq_filter,
    List.map_filterMap]
  refine List.filterMap_congr fun source _ => ?_
  cases hread : storage.read source.path with
  | ok bytes => simp [SourceRead.fault?, parsed?, hread, Except.map, Except.toOption]
  | error fault => simp [SourceRead.fault?, parsed?, hread, Except.map, Except.toOption]

/-- If one storage cannot read some source files that are empty on the other one, these files are
skipped in addition. -/
theorem skipped_perm_of_emptiedIn
    (h : storage.EmptiedIn emptied failing (Listing.sources entries)) :
    (ofEntries storage schedule root entries).skipped.Perm
      ((ofEntries emptied schedule' root entries).skipped ++
        ((Listing.sources entries).filter failing).map Entry.path) := by
  let sources := Listing.sources entries
  let lost := sources.filter fun source => (parsed? storage source).isNone
  let lost' := sources.filter fun source => (parsed? emptied source).isNone
  -- of the files that the one storage cannot read, those that fail are empty on the other one
  have hfailing : lost.filter failing = sources.filter failing := by
    rw [List.filter_filter]
    refine List.filter_congr fun source hsource => ?_
    cases hfailing : failing source with
    | false => rfl
    | true =>
      obtain ⟨fault, hfault⟩ := h.unreadable source hsource hfailing
      rw [parsed?, hfault]
      rfl
  have hothers : (lost.filter fun source => !failing source) = lost' := by
    rw [List.filter_filter]
    refine List.filter_congr fun source hsource => ?_
    cases hfailing : failing source with
    | false => rw [parsed?, parsed?, h.same source hsource hfailing, Bool.not_false, Bool.true_and]
    | true =>
      have hparsed : parsed? emptied source = some (Parsed.ofBytes []) := by
        rw [parsed?, h.empty source hsource hfailing]
        rfl
      rw [hparsed]
      rfl
  have hlost : lost.Perm (lost' ++ sources.filter failing) := by
    rw [← hfailing, ← hothers]
    exact (List.filter_append_perm failing lost).symm.trans List.perm_append_comm
  refine (skipped_perm storage schedule root entries).trans ?_
  refine (hlost.map Entry.path).trans ?_
  rw [List.map_append]
  exact (skipped_perm emptied schedule' root entries).symm.append_right _

end Analysis

namespace Project

variable {storage emptied : Storage} {schedule schedule' : Schedule} {failing : Entry → Bool}
  {root : Path} {entries : List Entry}

/-- Some source files of a directory cannot be read on one storage and are empty on another one
that is otherwise the same. On both storages the analysis of the directory is finished, and all that
a project tells is the same, except for the skipped files: on the one storage these files are
skipped in addition. -/
theorem analyze_of_emptiedIn (hlist : storage.list root = .ok entries)
    (hlist' : emptied.list root = .ok entries)
    (h : storage.EmptiedIn emptied failing (Listing.sources entries)) :
    let p := ((ofRoot root).analyze storage schedule).1
    let q := ((ofRoot root).analyze emptied schedule').1
    (∃ analysis, p.progress = .done analysis) ∧ (∃ analysis, q.progress = .done analysis) ∧
      p.sources = q.sources ∧ p.registry = q.registry ∧ p.roots = q.roots ∧
      p.includes = q.includes ∧ p.buckets = q.buckets ∧ p.outline = q.outline ∧
      (∀ id, p.compileSet id = q.compileSet id) ∧
      p.skipped.Perm (q.skipped ++ ((Listing.sources entries).filter failing).map Entry.path) := by
  intro p q
  let analysis := Analysis.ofEntries emptied schedule' root entries
  let skipped := (Analysis.ofEntries storage schedule root entries).skipped
  have hp : p = ⟨root, .done { analysis with skipped := skipped }⟩ := by
    rw [← Analysis.ofEntries_of_emptiedIn h]
    exact congrArg Prod.fst (analyze_ofRoot_of_ok hlist)
  have hq : q = ⟨root, .done analysis⟩ := congrArg Prod.fst (analyze_ofRoot_of_ok hlist')
  have hskipped : skipped.Perm
      (analysis.skipped ++ ((Listing.sources entries).filter failing).map Entry.path) :=
    Analysis.skipped_perm_of_emptiedIn h
  rw [hp, hq]
  -- what else a project tells does not look at the skipped files, whatever the analysis is
  clear_value analysis skipped
  exact ⟨⟨_, rfl⟩, ⟨_, rfl⟩, rfl, rfl, rfl, rfl, rfl, rfl, fun _ => rfl, hskipped⟩

/-- A directory of four source files. The first one includes the second one and instantiates a
module of the third one, and the last one cannot be read. -/
def fourFiles (second : Except FileFault (List UInt8)) : Storage where
  list := fun _ => .ok [⟨"a.v", ⟨"p/a.v"⟩, false⟩, ⟨"b.v", ⟨"p/b.v"⟩, false⟩,
    ⟨"c.v", ⟨"p/c.v"⟩, false⟩, ⟨"d.v", ⟨"p/d.v"⟩, false⟩]
  read := fun path =>
    if path.text = "p/a.v" then
      .ok (Text.Utf8.encode "`include \"b.v\"\nmodule m; n u(); endmodule")
    else if path.text = "p/b.v" then second
    else if path.text = "p/c.v" then .ok (Text.Utf8.encode "module n; endmodule")
    else .error .denied
  isFile := fun _ => true

/-- The second file cannot be read, or it is empty and the reads finish in another order. -/
theorem analyze_of_emptiedIn_fourFiles :
    let storage := fourFiles (.error .missing)
    let emptied := fourFiles (.ok [])
    let p := ((ofRoot ⟨"p"⟩).analyze storage .backwards).1
    let q := ((ofRoot ⟨"p"⟩).analyze emptied .inOrder).1
    let failing : Entry → Bool := fun source => source.name == "b.v"
    ∃ entries, storage.list ⟨"p"⟩ = .ok entries ∧ emptied.list ⟨"p"⟩ = .ok entries ∧
      storage.EmptiedIn emptied failing (Listing.sources entries) ∧ p.registry = q.registry ∧
      p.includes = [⟨"b.v", ⟨"p/b.v"⟩⟩] ∧ p.skipped.Perm [⟨"p/d.v"⟩, ⟨"p/b.v"⟩] := by
  intro storage emptied p q failing
  let entries : List Entry := [⟨"a.v", ⟨"p/a.v"⟩, false⟩, ⟨"b.v", ⟨"p/b.v"⟩, false⟩,
    ⟨"c.v", ⟨"p/c.v"⟩, false⟩, ⟨"d.v", ⟨"p/d.v"⟩, false⟩]
  have hsources : Listing.sources entries = entries := by decide +kernel
  have hemptied : storage.EmptiedIn emptied failing (Listing.sources entries) := by
    have hmissing : ∀ source ∈ entries, failing source = true →
        storage.read source.path = .error .missing := by decide +kernel
    rw [hsources]
    exact { unreadable := fun source hsource hfailing => ⟨_, hmissing source hsource hfailing⟩
            empty := by decide +kernel
            same := by decide +kernel }
  have hlist : storage.list ⟨"p"⟩ = .ok entries := rfl
  have hlist' : emptied.list ⟨"p"⟩ = .ok entries := rfl
  obtain ⟨-, -, -, hregistry, -, hincludes, -, -, -, hskipped⟩ :=
    @analyze_of_emptiedIn storage emptied .backwards .inOrder failing ⟨"p"⟩ entries hlist hlist'
      hemptied
  refine ⟨entries, hlist, hlist', hemptied, hregistry, ?_, ?_⟩
  · decide +kernel
  · refine hskipped.trans (List.Perm.of_eq ?_)
    decide +kernel

end Project

end DesignAtlas
