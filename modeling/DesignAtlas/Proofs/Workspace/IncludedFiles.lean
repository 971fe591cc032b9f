import DesignAtlas.Proofs.Source.IncludeOffsets
import DesignAtlas.Proofs.Workspace.Coherence
import DesignAtlas.Proofs.Workspace.Refinement

/-!
# The included files of a directory

A source file can mention names in include directives. Those that are names of source files, of
unreadable ones as well, are the included files. Each is there once, at its first mention, and they
are shown as the first bucket. The path of an included file is made of its name. It leads to the
source file of that name if the names that are listed are those of the files.

* `Storage.Mentions`: a source file mentions a name at an offset.
* `pairwise_eraseDups_map`: keys without their repeats stand in the order in which they first
  appear.
* `mentions`: all mentions, file by file. `pairwise_mentions`: their order.
* `HasIncluded`: what a workspace has of the included files. `hasIncluded_waitForAccomplish`: every
  analysis of a directory that can be listed finds that.
* `includes_oddNames`: a name that is not that of the file, and a directory with the name of the
  bucket.
-/

namespace DesignAtlas

/-- The text of a source file can be read and mentions a name in the directive at an offset. -/
def Storage.Mentions (storage : Storage) (source : Entry) (offset : Nat) (name : String) : Prop :=
  ∃ bytes names, storage.read source.path = .ok bytes ∧
    Source.IncludeScan (Text.Utf8.decodeLossy bytes).toList 0 names ∧ (offset, name) ∈ names

/-- An entry is a source file: a file whose name ends as the names of sources do. -/
def Entry.IsSource (e : Entry) : Prop :=
  e.isDirectory = false ∧ FileCategory.source.IsFirst e.name

/-- Keys without their repeats stand in the order in which they first appear. -/
theorem pairwise_eraseDups_map {α κ : Type} [DecidableEq κ] (key : α → κ) {l : List α}
    {R : α → α → Prop} (h : l.Pairwise R) :
    (l.map key).eraseDups.Pairwise fun k k' =>
      ∃ a ∈ l, key a = k ∧ ∀ b ∈ l, key b = k' → R a b := by
  induction l using List.reverseRecOn with
  | nil => exact .nil
  | append_singleton l a ih =>
    obtain ⟨hl, -, hlast⟩ := List.pairwise_append.1 h
    have hearlier := ih hl
    rw [List.map_append, List.map_singleton, eraseDups_concat]
    have hkept : (l.map key).eraseDups.Pairwise fun k k' =>
        ∃ b ∈ l ++ [a], key b = k ∧ ∀ c ∈ l ++ [a], key c = k' → R b c := by
      refine hearlier.imp ?_
      rintro k k' ⟨b, hb, rfl, hbefore⟩
      refine ⟨b, List.mem_append_left _ hb, rfl, fun c hc hkey => ?_⟩
      rcases List.mem_append.1 hc with hc | hc
      · exact hbefore c hc hkey
      · exact hlast b hb c hc
    split
    · exact hkept
    · next hnew =>
      refine List.pairwise_append.2 ⟨hkept, List.pairwise_singleton _ _, fun k hk k' hk' => ?_⟩
      obtain rfl := List.mem_singleton.1 hk'
      obtain ⟨b, hb, rfl⟩ := List.mem_map.1 (List.mem_eraseDups.1 hk)
      refine ⟨b, List.mem_append_left _ hb, rfl, fun c hc hkey => ?_⟩
      rcases List.mem_append.1 hc with hc | hc
      · exact absurd (hkey ▸ List.mem_map_of_mem hc) hnew
      · exact hlast b hb c hc

namespace Analysis

/-- A mention of a name in a source file. -/
structure Mention where
  /-- The place of the file among the entries of the directory. -/
  place : Nat
  /-- The offset of the directive in the text of the file. -/
  offset : Nat
  /-- The name that is mentioned. -/
  name : String

/-- One mention stands before another one: in a file further in front, or further in front in the
same file. -/
def Mention.Before (a b : Mention) : Prop :=
  a.place < b.place ∨ a.place = b.place ∧ a.offset < b.offset

/-- Some source file among the entries mentions a name. -/
def Mention.IsIn (a : Mention) (storage : Storage) (entries : List Entry) : Prop :=
  ∃ source, entries[a.place]? = some source ∧ source.IsSource ∧
    storage.Mentions source a.offset a.name

variable {storage : Storage} {schedule : Schedule} {root : Path} {entries : List Entry}
  {a : Mention}

/-- The source files among some entries, with their places. -/
def placedSources (entries : List Entry) : List (Entry × Nat) :=
  entries.zipIdx.filter fun placed =>
    !placed.1.isDirectory && FileCategory.ofName placed.1.name == .source

/-- The mentions in the text of a source file, if it can be read. -/
def mentionsIn (storage : Storage) (placed : Entry × Nat) : List Mention :=
  match storage.read placed.1.path with
  | .ok bytes => (Source.placedIncludes (Text.Utf8.decodeLossy bytes)).map fun found =>
      ⟨placed.2, found.1, found.2⟩
  | .error _ => []

/-- All mentions in the source files of a directory, file by file. -/
def mentions (storage : Storage) (entries : List Entry) : List Mention :=
  (placedSources entries).flatMap (mentionsIn storage)

theorem map_fst_placedSources (entries : List Entry) :
    (placedSources entries).map Prod.fst = Listing.sources entries := by
  conv_rhs => rw [← List.zipIdx_map_fst 0 entries]
  rw [placedSources, Listing.sources, Listing.filesOf, List.filter_map]
  rfl

theorem isSource_iff {e : Entry} : e.IsSource ↔
    (!e.isDirectory && FileCategory.ofName e.name == .source) = true := by
  rw [Entry.IsSource, FileCategory.isFirst_iff, Bool.and_eq_true, Bool.not_eq_true', beq_iff_eq]

theorem mem_sources_iff {e : Entry} :
    e ∈ Listing.sources entries ↔ e ∈ entries ∧ e.IsSource := by
  rw [Listing.sources, Listing.filesOf, List.mem_filter, isSource_iff]

theorem mem_mentionsIn_iff {source : Entry} {place : Nat} :
    a ∈ mentionsIn storage (source, place) ↔
      a.place = place ∧ storage.Mentions source a.offset a.name := by
  obtain ⟨at', offset, name⟩ := a
  rw [mentionsIn, Storage.Mentions]
  cases hread : storage.read source.path with
  | error fault => simp
  | ok bytes =>
    simp only [List.mem_map, Prod.exists, Mention.mk.injEq, Except.ok.injEq, Source.includeScan_iff]
    constructor
    · rintro ⟨offset, name, hfound, rfl, rfl, rfl⟩
      exact ⟨rfl, bytes, _, rfl, rfl, hfound⟩
    · rintro ⟨rfl, _, _, rfl, rfl, hfound⟩
      exact ⟨offset, name, hfound, rfl, rfl, rfl⟩

theorem mem_mentions_iff : a ∈ mentions storage entries ↔ a.IsIn storage entries := by
  simp only [mentions, placedSources, List.mem_flatMap, List.mem_filter, ← isSource_iff,
    List.mem_zipIdx_iff_getElem?, Prod.exists, mem_mentionsIn_iff, Mention.IsIn]
  constructor
  · rintro ⟨source, place, ⟨hplace, hsource⟩, rfl, hmentions⟩
    exact ⟨source, hplace, hsource, hmentions⟩
  · rintro ⟨source, hplace, hsource, hmentions⟩
    exact ⟨source, a.place, ⟨hplace, hsource⟩, rfl, hmentions⟩

/-- The mentions in the source files stand in order. -/
theorem pairwise_mentions (storage : Storage) (entries : List Entry) :
    (mentions storage entries).Pairwise Mention.Before := by
  refine List.pairwise_flatMap.2 ⟨fun placed _ => ?_, ?_⟩
  · -- within one file the scan goes from left to right
    rw [mentionsIn]
    cases storage.read placed.1.path with
    | error fault => exact .nil
    | ok bytes =>
      refine List.pairwise_map.2 ?_
      have hscan := Source.includeScan_iff.2
        (Eq.refl (Source.placedIncludes (Text.Utf8.decodeLossy bytes)))
      exact hscan.pairwise_offset.2.imp fun hlt => .inr ⟨rfl, hlt⟩
  · have hplaces : entries.zipIdx.Pairwise fun placed placed' => placed.2 < placed'.2 := by
      refine List.pairwise_map.1 ?_
      rw [List.zipIdx_map_snd]
      exact List.pairwise_lt_range'
    refine (hplaces.filter _).imp fun {placed placed'} hlt a ha b hb => .inl ?_
    rw [(mem_mentionsIn_iff.1 ha).1, (mem_mentionsIn_iff.1 hb).1]
    exact hlt

/-- The included names are those that are mentioned. -/
theorem map_name_mentions (storage : Storage) (schedule : Schedule) (entries : List Entry) :
    (parsedSources (Listing.sources entries)
      (arrivals storage schedule (Listing.sources entries))).flatMap (fun source =>
        source.2.includedNames) = (mentions storage entries).map Mention.name := by
  rw [flatMap_parsedSources, mentions, ← map_fst_placedSources, List.flatMap_map, List.map_flatMap]
  refine List.flatMap_congr fun placed _ => ?_
  rw [parsed?, mentionsIn]
  cases storage.read placed.1.path with
  | error fault => rfl
  | ok bytes =>
    rw [List.map_map]
    exact (Source.map_snd_placedIncludes (Text.Utf8.decodeLossy bytes)).symm

/-- The names of the included files are the mentioned names of source files, each once. -/
theorem map_name_includes (storage : Storage) (schedule : Schedule) (root : Path)
    (entries : List Entry) :
    (ofEntries storage schedule root entries).includes.map IncludedFile.name =
      (((mentions storage entries).filter fun a =>
        ((Listing.sources entries).map Entry.name).contains a.name).map
          Mention.name).eraseDups := by
  rw [ofEntries, ofArrivals]
  simp only [map_name_includedFiles, map_name_mentions]
  rw [List.filter_map]
  rfl

theorem mem_map_name_includes_iff {name : String} :
    name ∈ (ofEntries storage schedule root entries).includes.map IncludedFile.name ↔
      (∃ e ∈ entries, e.IsSource ∧ e.name = name) ∧
        ∃ a : Mention, a.IsIn storage entries ∧ a.name = name := by
  have hsources : ∀ name, name ∈ (Listing.sources entries).map Entry.name ↔
      ∃ e ∈ entries, e.IsSource ∧ e.name = name := by
    intro name
    simp only [List.mem_map, mem_sources_iff, and_assoc]
  simp only [map_name_includes, List.mem_eraseDups, List.mem_map (f := Mention.name),
    List.mem_filter, List.contains_iff_mem, mem_mentions_iff, hsources]
  constructor
  · rintro ⟨a, ⟨ha, hsource⟩, rfl⟩
    exact ⟨hsource, a, ha, rfl⟩
  · rintro ⟨hsource, a, ha, rfl⟩
    exact ⟨a, ⟨ha, hsource⟩, rfl⟩

/-- The included files stand in the order of their first mentions. -/
theorem pairwise_includes (storage : Storage) (schedule : Schedule) (root : Path)
    (entries : List Entry) :
    (ofEntries storage schedule root entries).includes.Pairwise fun f g =>
      ∃ a : Mention, a.IsIn storage entries ∧ a.name = f.name ∧
        ∀ b : Mention, b.IsIn storage entries → b.name = g.name → a.Before b := by
  have hmentions := pairwise_mentions storage entries
  have horder := pairwise_eraseDups_map Mention.name (hmentions.filter fun a =>
    ((Listing.sources entries).map Entry.name).contains a.name)
  rw [← map_name_includes storage schedule root entries] at horder
  refine (List.pairwise_map.1 horder).imp_of_mem ?_
  rintro f g - hg ⟨a, ha, hname, hbefore⟩
  refine ⟨a, mem_mentions_iff.1 (List.mem_filter.1 ha).1, hname, fun b hb hbname => ?_⟩
  -- a mention of the second name is a mention of a source file
  obtain ⟨⟨e, he, hsource, hename⟩, -⟩ := mem_map_name_includes_iff.1 (List.mem_map_of_mem hg)
  have hknown : b.name ∈ (Listing.sources entries).map Entry.name :=
    List.mem_map.2 ⟨e, mem_sources_iff.2 ⟨he, hsource⟩, hename.trans hbname.symm⟩
  refine hbefore b (List.mem_filter.2 ⟨mem_mentions_iff.2 hb, ?_⟩) hbname
  exact List.contains_iff_mem.2 hknown

/-- The path of an included file leads from the root to its name. -/
theorem path_of_mem_includes {f : IncludedFile}
    (hf : f ∈ (ofEntries storage schedule root entries).includes) : f.path = root.join f.name := by
  obtain ⟨name, -, rfl⟩ := List.mem_map.1 hf
  rfl

end Analysis

namespace Listing

/-- The first bucket holds the included files, if there are any. All others are categories of other
names or directories. -/
theorem exists_buckets_eq (included : List (String × Path)) (entries : List Entry) :
    ∃ others, buckets included entries =
        (if included = [] then [] else [Folder.ofFiles includesName included]) ++ others ∧
      ∀ f ∈ others, f.location? = none → f.name ≠ includesName := by
  refine ⟨(bucketCategories.map fun named => bucket named.1 named.2 entries).filter
    (fun f => !f.children.isEmpty) ++ directories entries, ?_, ?_⟩
  · rw [buckets, fileBuckets, List.filter_cons, ← List.append_assoc]
    cases included <;> rfl
  · intro f hf hlocation
    rcases List.mem_append.1 hf with hf | hf
    · obtain ⟨named, hnamed, rfl⟩ := List.mem_map.1 (List.mem_filter.1 hf).1
      have hnames : ∀ named ∈ bucketCategories, named.1 ≠ includesName := by decide
      exact hnames named hnamed
    · -- a directory has a location
      obtain ⟨e, -, rfl⟩ := List.mem_map.1 hf
      cases hlocation

end Listing

namespace Workspace

variable {storage : Storage} {schedule : Schedule} {root : Path} {entries : List Entry}

/-- What a workspace has of the included files of a directory with the given entries. -/
structure HasIncluded (storage : Storage) (entries : List Entry) (w : Workspace) : Prop where
  /-- No name is repeated. -/
  nodup : (w.includes.map IncludedFile.name).Nodup
  /-- The names are those of source files that some source file mentions. -/
  mem_iff : ∀ name, name ∈ w.includes.map IncludedFile.name ↔
    (∃ e ∈ entries, e.IsSource ∧ e.name = name) ∧
      ∃ a : Analysis.Mention, a.IsIn storage entries ∧ a.name = name
  /-- Of two included files the one that is mentioned first comes first: some mention of it stands
  before all mentions of the other one. -/
  order : w.includes.Pairwise fun f g =>
    ∃ a : Analysis.Mention, a.IsIn storage entries ∧ a.name = f.name ∧
      ∀ b : Analysis.Mention, b.IsIn storage entries → b.name = g.name → a.Before b
  /-- The path leads from the root to the name. -/
  path : ∀ f ∈ w.includes, f.path = w.root.join f.name
  /-- The first bucket holds just these files, and there is none if there are no such files: what is
  called the same then is a directory. -/
  bucket : ∃ others, w.buckets =
      (if w.includes = [] then [] else
        [.mk "`includes" none (w.includes.map fun f => .file f.name f.path) true]) ++ others ∧
    ∀ f ∈ others, f.location? = none → f.name ≠ "`includes"

/-- If the names that are listed are those of the files, the files stand in the order of the bytes
of their names, and every included file is the source file of its name. -/
structure NamesFiles (entries : List Entry) (w : Workspace) : Prop where
  /-- The files stand in the order of the bytes of their names. -/
  sorted : entries.Pairwise fun e e' => Text.Utf8.encode e.name < Text.Utf8.encode e'.name
  /-- The path is that of the source file of the name. -/
  path : ∀ f ∈ w.includes, ∃ e ∈ entries, e.IsSource ∧ e.name = f.name ∧ e.path = f.path

/-- The first bucket of the analysis of a directory. -/
theorem exists_buckets_ofProject (root : Path) {analysis : Analysis}
    (hbuckets : analysis.buckets =
      Listing.buckets (analysis.includes.map fun f => (f.name, f.path)) entries) :
    let w := ofProject ⟨root, .done analysis⟩
    ∃ others, w.buckets =
        (if w.includes = [] then [] else
          [.mk "`includes" none (w.includes.map fun f => .file f.name f.path) true]) ++ others ∧
      ∀ f ∈ others, f.location? = none → f.name ≠ "`includes" := by
  intro w
  obtain ⟨others, hothers, hnames⟩ := Listing.exists_buckets_eq
    (analysis.includes.map fun f => (f.name, f.path)) entries
  have hw : w.buckets = analysis.buckets.map .ofFolder := rfl
  have hincludes : w.includes = analysis.includes := rfl
  refine ⟨others.map .ofFolder, ?_, ?_⟩
  · rw [hw, hbuckets, hothers, List.map_append, hincludes]
    simp only [List.map_eq_nil_iff]
    split
    · rfl
    · rw [List.map_singleton, ofFolder_ofFiles, List.map_map]
      rfl
  · rw [List.forall_mem_map]
    intro f hf hlocation
    rw [FolderNode.location?_ofFolder] at hlocation
    rw [FolderNode.name_ofFolder]
    exact hnames f hf hlocation

theorem namesFiles_of_isListing {w : Workspace} (hentries : IsListing w.root entries)
    (h : w.HasIncluded storage entries) : w.NamesFiles entries where
  sorted := hentries.sorted.imp Text.Utf8.encode_lt_encode_iff.2
  path f hf := by
    obtain ⟨⟨e, he, hsource, hname⟩, -⟩ := (h.mem_iff f.name).1 (List.mem_map_of_mem hf)
    refine ⟨e, he, hsource, hname, ?_⟩
    rw [hentries.below e he, hname, h.path f hf]

/-- The analysis of a directory that can be listed is finished, in whatever order its reads finish.
It finds the source files that some readable source file mentions in an include directive, each once
and in the order of the first mentions, and shows them as the first bucket. If the names that are
listed are those of the files, these are the source files of these names. -/
theorem hasIncluded_waitForAccomplish (schedule : Schedule)
    (hlist : storage.list root = .ok entries) :
    let w := ((ofRoot root).waitForAccomplish storage schedule).1
    ((ofRoot root).waitForAccomplish storage schedule).2 = .ok () ∧ w.state = .done ∧
      w.HasIncluded storage entries ∧ (IsListing root entries → w.NamesFiles entries) := by
  intro w
  have hanalyze : (ofRoot root).waitForAccomplish storage schedule =
      (ofProject ⟨root, .done (Analysis.ofEntries storage schedule root entries)⟩, .ok ()) := by
    rw [ofRoot_eq_ofProject, waitForAccomplish_ofProject, Project.analyze_ofRoot_of_ok hlist]
  have hw : w = ofProject ⟨root, .done (Analysis.ofEntries storage schedule root entries)⟩ :=
    congrArg Prod.fst hanalyze
  have hincluded : w.HasIncluded storage entries := by
    rw [hw]
    exact
      { nodup := Analysis.nodup_map_name_includedFiles _ _ _
        mem_iff := fun name => Analysis.mem_map_name_includes_iff
        order := Analysis.pairwise_includes storage schedule root entries
        path := fun f => Analysis.path_of_mem_includes
        bucket := exists_buckets_ofProject root rfl }
  have hroot : w.root = root := congrArg Workspace.root hw
  refine ⟨congrArg Prod.snd hanalyze, congrArg Workspace.state hw, hincluded, fun hentries => ?_⟩
  exact namesFiles_of_isListing (hroot ▸ hentries) hincluded

/-- A directory with four source files. The first one mentions the third one and then the second
one, which mentions itself and a name that is none of a source file. The third one cannot be read.
The last one mentions the first one inside of another mention. -/
def mentioning : Storage where
  list := fun _ => .ok [⟨"a.v", ⟨"p/a.v"⟩, false⟩, ⟨"b.v", ⟨"p/b.v"⟩, false⟩,
    ⟨"c.vh", ⟨"p/c.vh"⟩, false⟩, ⟨"d.v", ⟨"p/d.v"⟩, false⟩]
  read := fun path =>
    if path.text = "p/a.v" then
      .ok (Text.Utf8.encode "`include \"c.vh\"\n`include \"b.v\"\n`include \"c.vh\"")
    else if path.text = "p/b.v" then
      .ok (Text.Utf8.encode "`include \"b.v\" `include \"e.v\"")
    else if path.text = "p/d.v" then
      .ok (Text.Utf8.encode "`include \"`include \"a.v\"")
    else .error .denied
  isFile := fun _ => true

/-- The third file is included first, though it cannot be read, and the first one is not. -/
theorem hasIncluded_waitForAccomplish_mentioning :
    let w := ((ofRoot ⟨"p"⟩).waitForAccomplish mentioning .backwards).1
    ∃ entries, mentioning.list ⟨"p"⟩ = .ok entries ∧ IsListing ⟨"p"⟩ entries ∧
      w.HasIncluded mentioning entries ∧ w.NamesFiles entries ∧
        w.includes = [⟨"c.vh", ⟨"p/c.vh"⟩⟩, ⟨"b.v", ⟨"p/b.v"⟩⟩] := by
  let entries : List Entry := [⟨"a.v", ⟨"p/a.v"⟩, false⟩, ⟨"b.v", ⟨"p/b.v"⟩, false⟩,
    ⟨"c.vh", ⟨"p/c.vh"⟩, false⟩, ⟨"d.v", ⟨"p/d.v"⟩, false⟩]
  have hlist : mentioning.list ⟨"p"⟩ = .ok entries := rfl
  have hlisting : IsListing ⟨"p"⟩ entries :=
    { sorted := by decide +kernel
      named := by decide +kernel
      below := by decide +kernel }
  obtain ⟨-, -, hincluded, hnames⟩ := hasIncluded_waitForAccomplish .backwards hlist
  refine ⟨entries, hlist, hlisting, hincluded, hnames hlisting, ?_⟩
  decide +kernel

/-- A directory with another directory that is called as the bucket is, and two source files of
the same text. The name of the second file is no text, and what stands in its path here stands for
bytes that are none. -/
def oddNames (text : String) : Storage where
  list := fun _ => .ok [⟨"`includes", ⟨"p/`includes"⟩, true⟩, ⟨"a.v", ⟨"p/a.v"⟩, false⟩,
    ⟨"b\uFFFD.vh", ⟨"p/b\xff.vh"⟩, false⟩]
  read := fun _ => .ok (Text.Utf8.encode text)
  isFile := fun _ => true

/-- If the name that is shown for the second file is mentioned, it is included with a path that is
none of the listed ones. If nothing is mentioned, there is still a first bucket of the name: the
directory. -/
theorem includes_oddNames :
    let mention := "`include \"b\uFFFD.vh\""
    let w text := ((ofRoot ⟨"p"⟩).waitForAccomplish (oddNames text) .inOrder).1
    (∃ entries, (oddNames mention).list ⟨"p"⟩ = .ok entries ∧
      (w mention).includes = [⟨"b\uFFFD.vh", ⟨"p/b\uFFFD.vh"⟩⟩] ∧
      ¬∀ f ∈ (w mention).includes, ∃ e ∈ entries, e.name = f.name ∧ e.path = f.path) ∧
    (w "").includes = [] ∧
      ((w "").bucket? "`includes").map FolderNode.location? = some (some ⟨"p/`includes"⟩) := by
  refine ⟨⟨_, rfl, ?_⟩, ?_⟩
  · decide +kernel
  · decide +kernel

end Workspace

end DesignAtlas
