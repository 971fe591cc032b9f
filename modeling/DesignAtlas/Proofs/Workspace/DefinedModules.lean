import DesignAtlas.Proofs.Design.Registering
import DesignAtlas.Proofs.Workspace.Listed
import DesignAtlas.Proofs.Workspace.Reads
import DesignAtlas.Proofs.Workspace.Requests

/-!
# The modules of an analyzed directory

An analysis registers the modules of every source file that can be read, file by file in the order
of the listing. A name that a file defines more than once keeps the place of its first definition
and gets the content of its last one.

* `modulesOf`: the modules of one source file.
* `modules_ofEntries`: the modules of the registry are those of the source files, one file behind
  the other.
* `modules_analyze`: the first analysis of a listed directory succeeds and registers these modules,
  so the files of the modules stand in the order of the ids.
-/

namespace DesignAtlas

namespace Analysis

variable {storage : Storage} {schedule : Schedule} {root : Path} {entries : List Entry}

/-- The module that a definition in a source file makes. -/
def moduleOf (source : Entry) (d : Source.Definition) : Module :=
  { name := d.name, file := source.name, path := source.path, line := d.line, body := d.body }

/-- The modules of a source file that can be read: for every name that it defines, in the order of
the first definitions, the module of the last definition. -/
def modulesOf (storage : Storage) (source : Entry) : List Module :=
  match storage.read source.path with
  | .ok bytes =>
    let definitions := Source.definitions (Text.Utf8.decodeLossy bytes)
    (latest Source.Definition.name definitions).map (moduleOf source)
  | .error _ => []

theorem file_of_mem_modulesOf {source : Entry} {m : Module} (hm : m ∈ modulesOf storage source) :
    m.file = source.name := by
  unfold modulesOf at hm
  split at hm
  · obtain ⟨d, -, rfl⟩ := List.mem_map.1 hm
    rfl
  · cases hm

/-- Of the modules that a file defines registering keeps the last one of every name. -/
theorem latest_definitions (source : Entry) (definitions : List Source.Definition) :
    latest Module.key (definitions.map (moduleOf source)) =
      (latest Source.Definition.name definitions).map (moduleOf source) := by
  -- within one file a key is told apart by its name
  let keyOf (name : String) : String × List Path.Component := (name, source.path.components)
  have hinjective : Function.Injective keyOf := fun name name' h => (Prod.mk.inj h).1
  have hkey : ∀ d : Source.Definition, (moduleOf source d).key = keyOf d.name := fun _ => rfl
  exact latest_map hinjective hkey definitions

/-- Everything that the readable ones of some source files define. -/
theorem definedModules_eq_flatMap (storage : Storage) (schedule : Schedule)
    (sources : List Entry) :
    definedModules (parsedSources sources (arrivals storage schedule sources)) =
      sources.flatMap fun source =>
        ((parsed? storage source).elim [] Parsed.definitions).map (moduleOf source) := by
  rw [definedModules, flatMap_parsedSources]
  refine List.flatMap_congr fun source _ => ?_
  cases parsed? storage source <;> rfl

theorem latest_key_definitions (source : Entry) :
    latest Module.key
        (((parsed? storage source).elim [] Parsed.definitions).map (moduleOf source)) =
      modulesOf storage source := by
  rw [latest_definitions, parsed?, modulesOf]
  cases storage.read source.path <;> rfl

/-- The registry holds, for every name and file, the module that was registered last. -/
theorem modules_ofEntries_eq_latest (storage : Storage) (schedule : Schedule) (root : Path)
    (entries : List Entry) :
    (ofEntries storage schedule root entries).registry.modules =
      latest Module.key
        ((Listing.sources entries).flatMap fun source =>
          ((parsed? storage source).elim [] Parsed.definitions).map (moduleOf source)) := by
  rw [← definedModules_eq_flatMap storage schedule]
  exact Registry.modules_foldl_register _

/-- Every module of the registry comes from a definition in a source file that could be read. -/
theorem exists_definition_of_mem_modules {m : Module}
    (hm : m ∈ (ofEntries storage schedule root entries).registry.modules) :
    ∃ source ∈ Listing.sources entries, ∃ bytes, storage.read source.path = .ok bytes ∧
      ∃ d ∈ Source.definitions (Text.Utf8.decodeLossy bytes), m = moduleOf source d := by
  rw [modules_ofEntries_eq_latest] at hm
  obtain ⟨source, hsource, hm⟩ := List.mem_flatMap.1 (mem_of_mem_latest hm)
  obtain ⟨d, hd, rfl⟩ := List.mem_map.1 hm
  refine ⟨source, hsource, ?_⟩
  rw [parsed?] at hd
  cases hread : storage.read source.path with
  | error fault =>
    rw [hread] at hd
    cases hd
  | ok bytes =>
    rw [hread] at hd
    exact ⟨bytes, rfl, d, hd, rfl⟩

/-- If no two source files have the same path, the modules of the registry are those of the source
files, one file behind the other. -/
theorem modules_ofEntries
    (hpaths : (Listing.sources entries).Pairwise fun e e' => ¬e.path.Same e'.path) :
    (ofEntries storage schedule root entries).registry.modules =
      (Listing.sources entries).flatMap (modulesOf storage) := by
  rw [modules_ofEntries_eq_latest, latest_flatMap]
  · exact List.flatMap_congr fun source _ => latest_key_definitions source
  · -- modules of different paths have different keys
    refine hpaths.imp fun {source source'} hne m hm m' hm' hkey => ?_
    obtain ⟨d, -, rfl⟩ := List.mem_map.1 hm
    obtain ⟨d', -, rfl⟩ := List.mem_map.1 hm'
    exact hne (Prod.mk.inj hkey).2

/-- The files of the modules stand in the order of the source files. -/
theorem pairwise_file_modules
    (hsorted : (Listing.sources entries).Pairwise fun e e' => e.name ≤ e'.name) :
    ((Listing.sources entries).flatMap (modulesOf storage)).Pairwise
      fun m n => m.file ≤ n.file := by
  refine List.pairwise_flatMap.2 ⟨fun source _ => ?_, ?_⟩
  · -- all modules of one file have its name
    refine List.pairwise_of_forall_mem_list fun m hm n hn => ?_
    have hfile : m.file = n.file :=
      (file_of_mem_modulesOf hm).trans (file_of_mem_modulesOf hn).symm
    exact hfile ▸ String.le_refl m.file
  · refine hsorted.imp fun {source source'} hle m hm n hn => ?_
    rwa [file_of_mem_modulesOf hm, file_of_mem_modulesOf hn]

end Analysis

namespace Project

variable {storage : Storage} {schedule : Schedule} {root : Path} {entries : List Entry}

/-- The first analysis of a directory that can be listed is finished. If no two source files have
the same path, it registers the modules of the source files that can be read. If the source files
stand in the order of their names, the names of the files do not decrease with increasing ids. -/
theorem modules_analyze (hlist : storage.list root = .ok entries)
    (hpaths : (Listing.sources entries).Pairwise fun e e' => ¬e.path.Same e'.path) :
    ∃ analysis, (ofRoot root).analyze storage schedule = (⟨root, .done analysis⟩, .ok ()) ∧
      analysis.registry.modules =
        (Listing.sources entries).flatMap (Analysis.modulesOf storage) ∧
      ((Listing.sources entries).Pairwise (fun e e' => e.name ≤ e'.name) →
        ∀ id id' m m', id ≤ id' → analysis.registry.get? id = some m →
          analysis.registry.get? id' = some m' → m.file ≤ m'.file) := by
  have hmodules : (Analysis.ofEntries storage schedule root entries).registry.modules = _ :=
    Analysis.modules_ofEntries hpaths
  refine ⟨_, analyze_ofRoot_of_ok hlist, hmodules, fun hsorted id id' m m' hle hm hm' => ?_⟩
  rw [Registry.get?, hmodules] at hm hm'
  obtain ⟨hid, rfl⟩ := List.getElem?_eq_some_iff.1 hm
  obtain ⟨hid', rfl⟩ := List.getElem?_eq_some_iff.1 hm'
  rcases Nat.eq_or_lt_of_le hle with rfl | hlt
  · exact String.le_refl _
  · exact List.pairwise_iff_getElem.1 (Analysis.pairwise_file_modules hsorted) id id' hid hid' hlt

/-- A directory with two files that define one name, the first of them twice, and a file that cannot
be read. -/
def redefining : Storage where
  list := fun _ => .ok
    [⟨"a.v", ⟨"p/a.v"⟩, false⟩, ⟨"b.v", ⟨"p/b.v"⟩, false⟩, ⟨"c.v", ⟨"p/c.v"⟩, false⟩]
  read := fun path =>
    if path.text = "p/a.v" then
      .ok (Text.Utf8.encode "module m;1endmodule\nmodule n;2endmodule\nmodule m;3endmodule")
    else if path.text = "p/c.v" then .ok (Text.Utf8.encode "module m;4endmodule")
    else .error .denied
  isFile := fun _ => true

/-- The redefined module stands first, with its last definition, though its file is read last. -/
theorem modules_analyze_redefining :
    ∃ entries, redefining.list ⟨"p"⟩ = .ok entries ∧
      ((Listing.sources entries).Pairwise fun e e' => ¬e.path.Same e'.path) ∧
      ((Listing.sources entries).Pairwise fun e e' => e.name ≤ e'.name) ∧
        ∃ analysis, (ofRoot ⟨"p"⟩).analyze redefining .backwards =
            (⟨⟨"p"⟩, .done analysis⟩, .ok ()) ∧
          analysis.registry.modules =
            [⟨"m", "a.v", ⟨"p/a.v"⟩, 2, "3"⟩, ⟨"n", "a.v", ⟨"p/a.v"⟩, 1, "2"⟩,
              ⟨"m", "c.v", ⟨"p/c.v"⟩, 0, "4"⟩] := by
  let entries : List Entry :=
    [⟨"a.v", ⟨"p/a.v"⟩, false⟩, ⟨"b.v", ⟨"p/b.v"⟩, false⟩, ⟨"c.v", ⟨"p/c.v"⟩, false⟩]
  have hpaths : (Listing.sources entries).Pairwise fun e e' => ¬e.path.Same e'.path := by
    decide +kernel
  have hsorted : (Listing.sources entries).Pairwise fun e e' => e.name ≤ e'.name := by
    decide +kernel
  have hlist : redefining.list ⟨"p"⟩ = .ok entries := rfl
  obtain ⟨analysis, hanalyze, hmodules, -⟩ := modules_analyze hlist hpaths
  refine ⟨entries, hlist, hpaths, hsorted, analysis, hanalyze, hmodules.trans ?_⟩
  decide +kernel

end Project

end DesignAtlas
