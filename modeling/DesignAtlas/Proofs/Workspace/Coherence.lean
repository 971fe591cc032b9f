import DesignAtlas.Proofs.Workspace.Queries
import DesignAtlas.Proofs.Workspace.UnreadableSources

/-!
# The parts of a project

A project keeps its modules, its source files, the included and the skipped ones apart from each
other. They always fit together, whether an analysis was made, failed or was forgotten. Files are
told apart by their names only where the names are those of the directory: names that are no text
are shown as texts, and two of them can be shown alike.

* `Project.IsCoherent`: the parts fit together. `Project.TellsFiles`: files are told apart by their
  names.
* `map_name_includedFiles`: the included files of an analysis.
* `fileName?_ne_of_mem_skipped`: no file is both read and skipped.
* `isCoherent_ofEntries`: what an analysis finds fits together.
* `isCoherent_after`, `tellsFiles_after`: so the parts fit together after any requests.
-/

namespace DesignAtlas

/-- The parts of a project fit together. -/
structure Project.IsCoherent (p : Project) : Prop where
  /-- The instantiations are recorded between known modules. -/
  closed : p.registry.IsClosed
  /-- The modules come from source files. -/
  file_mem : ∀ m ∈ p.registry.modules, m.file ∈ p.sources
  /-- The included files are source files. -/
  include_mem : ∀ name ∈ p.includes.map IncludedFile.name, name ∈ p.sources
  /-- The included files have different names. -/
  includes_nodup : (p.includes.map IncludedFile.name).Nodup

/-- The files of a project are told apart by their names. -/
structure Project.TellsFiles (p : Project) : Prop where
  /-- A name and a file are those of one module at most. -/
  distinct : ∀ id id' m m', p.registry.get? id = some m → p.registry.get? id' = some m' →
    m.name = m'.name → m.file = m'.file → id = id'
  /-- The modules come from files that could be read. -/
  not_skipped : ∀ m ∈ p.registry.modules, ∀ path ∈ p.skipped, path.fileName? ≠ some m.file

namespace Analysis

variable {storage : Storage} {schedule : Schedule} {root : Path} {entries : List Entry}
  {m : Module}

/-- The names of the included files are the included names that are names of sources, each once. -/
theorem map_name_includedFiles (root : Path) (sources names : List String) :
    (includedFiles root sources names).map IncludedFile.name =
      (names.filter fun name => sources.contains name).eraseDups := by
  rw [includedFiles, List.map_map]
  exact List.map_id _

theorem nodup_map_name_includedFiles (root : Path) (sources names : List String) :
    ((includedFiles root sources names).map IncludedFile.name).Nodup := by
  rw [map_name_includedFiles]
  exact nodup_eraseDups _

theorem mem_of_mem_map_name_includedFiles {sources names : List String} {name : String}
    (h : name ∈ (includedFiles root sources names).map IncludedFile.name) : name ∈ sources := by
  rw [map_name_includedFiles, List.mem_eraseDups, List.mem_filter] at h
  exact List.contains_iff_mem.1 h.2

/-- A module of an analyzed directory comes from a source file that could be read. -/
theorem exists_source_of_mem_modules
    (hm : m ∈ (ofEntries storage schedule root entries).registry.modules) :
    ∃ source ∈ Listing.sources entries, m.file = source.name ∧
      (parsed? storage source).isSome := by
  obtain ⟨source, hsource, bytes, hread, d, -, rfl⟩ := exists_definition_of_mem_modules hm
  refine ⟨source, hsource, rfl, ?_⟩
  rw [parsed?, hread]
  rfl

/-- A skipped path is that of a source file that could not be read. -/
theorem exists_source_of_mem_skipped {path : Path}
    (hpath : path ∈ (ofEntries storage schedule root entries).skipped) :
    ∃ source ∈ Listing.sources entries, source.path = path ∧ (parsed? storage source).isNone := by
  rw [(skipped_perm storage schedule root entries).mem_iff] at hpath
  obtain ⟨source, hunread, rfl⟩ := List.mem_map.1 hpath
  obtain ⟨hsource, hnone⟩ := List.mem_filter.1 hunread
  exact ⟨source, hsource, rfl, hnone⟩

/-- No file of a listed directory is both read and skipped. -/
theorem fileName?_ne_of_mem_skipped (hentries : IsListing root entries)
    (hm : m ∈ (ofEntries storage schedule root entries).registry.modules) {path : Path}
    (hpath : path ∈ (ofEntries storage schedule root entries).skipped) :
    path.fileName? ≠ some m.file := by
  obtain ⟨source, hsource, hfile, hread⟩ := exists_source_of_mem_modules hm
  obtain ⟨skipped, hskipped, rfl, hnone⟩ := exists_source_of_mem_skipped hpath
  have hname : skipped.path.fileName? = some skipped.name := by
    rw [hentries.sources.below skipped hskipped]
    exact Path.fileName?_join (hentries.sources.named skipped hskipped)
  rw [hname, hfile]
  intro heq
  obtain rfl : skipped = source :=
    hentries.sources.eq_of_name_eq hskipped hsource (Option.some_inj.1 heq)
  rw [Option.isNone_iff_eq_none.1 hnone] at hread
  cases hread

end Analysis

namespace Project

variable {p : Project} {storage : Storage} {schedule : Schedule} {root : Path}
  {entries : List Entry} {requests : List Request}

/-- A project that is not done has no parts that could not fit together. -/
theorem isCoherent_of_ne_done (h : ∀ analysis, p.progress ≠ .done analysis) : p.IsCoherent := by
  obtain ⟨-, hregistry, -, hincludes, -, -, -, -⟩ := isEmpty_of_ne_done h
  exact
    { closed := by rw [hregistry]; exact nofun
      file_mem := by rw [hregistry]; exact nofun
      include_mem := by rw [hincludes]; exact nofun
      includes_nodup := by rw [hincludes]; exact List.nodup_nil }

theorem tellsFiles_of_ne_done (h : ∀ analysis, p.progress ≠ .done analysis) : p.TellsFiles := by
  obtain ⟨-, hregistry, -, -, -, -, -, -⟩ := isEmpty_of_ne_done h
  exact
    { distinct := by rw [hregistry]; exact nofun
      not_skipped := by rw [hregistry]; exact nofun }

/-- What an analysis of a directory finds fits together, whatever buckets are expanded. -/
theorem isCoherent_ofEntries (storage : Storage) (schedule : Schedule) (root : Path)
    (entries : List Entry) (buckets : List Folder) :
    IsCoherent ⟨root, .done { Analysis.ofEntries storage schedule root entries with buckets }⟩ where
  closed := Registry.isClosed_link (Registry.instantiations_foldl_register _ _)
  file_mem := by
    intro m hm
    have hfound : m ∈ (Analysis.ofEntries storage schedule root entries).registry.modules := hm
    obtain ⟨source, hsource, hfile, -⟩ := Analysis.exists_source_of_mem_modules hfound
    rw [hfile]
    exact List.mem_map_of_mem hsource
  include_mem := fun name => Analysis.mem_of_mem_map_name_includedFiles
  includes_nodup := Analysis.nodup_map_name_includedFiles _ _ _

/-- An analysis tells the files of a listed directory apart. -/
theorem tellsFiles_ofEntries (hentries : IsListing root entries) (buckets : List Folder) :
    TellsFiles ⟨root, .done { Analysis.ofEntries storage schedule root entries with buckets }⟩ where
  distinct := (Analysis.isQueryable_ofEntries hentries).distinct
  not_skipped := fun _ hm _ => Analysis.fileName?_ne_of_mem_skipped hentries hm

/-- After any requests the parts of a project fit together. -/
theorem isCoherent_after (root : Path) (requests : List Request) :
    ((ofRoot root).after requests).IsCoherent := by
  by_cases hdone : ∃ analysis, ((ofRoot root).after requests).progress = .done analysis
  · obtain ⟨analysis, hdone⟩ := hdone
    obtain ⟨storage, schedule, entries, buckets, -, -, hafter⟩ := exists_after_of_done hdone
    rw [hafter]
    exact isCoherent_ofEntries storage schedule root entries buckets
  · exact isCoherent_of_ne_done fun analysis h => hdone ⟨analysis, h⟩

/-- If the directory was listed as it is, the files are told apart after any requests. -/
theorem tellsFiles_after
    (hstorages : ∀ storage schedule, Request.analyze storage schedule ∈ requests →
      storage.IsFaithfulAt root) :
    ((ofRoot root).after requests).TellsFiles := by
  by_cases hdone : ∃ analysis, ((ofRoot root).after requests).progress = .done analysis
  · obtain ⟨analysis, hdone⟩ := hdone
    obtain ⟨storage, schedule, entries, buckets, hrequest, hlist, hafter⟩ :=
      exists_after_of_done hdone
    rw [hafter]
    exact tellsFiles_ofEntries (hstorages storage schedule hrequest entries hlist) buckets
  · exact tellsFiles_of_ne_done fun analysis h => hdone ⟨analysis, h⟩

end Project

end DesignAtlas
