import DesignAtlas.CommandLine.Outcome
import DesignAtlas.Proofs.Workspace.Listed
import DesignAtlas.Proofs.Workspace.Refinement

/-!
# Listing a directory of a project

A directory of a project is asked for by the names that lead to it from the root. Every name but
the first one is looked up among the entries of a directory. The first one is looked up among all
that the project shows, and there the files come before the directories. So a directory is hidden
where files are shown under the name that its path begins with.

* `Storage.HasDirectory`: names lead from a directory to one inside it.
* `directoryParts_intercalate`: the names are read off the path.
* `Folder.entriesBelow_ofDirectory`: from an unread directory names lead to what is listed.
* `Project.ShowsFiles`: files are shown under a name.
* `outcome_list_of_hasDirectory`: what is printed for a path to a directory.
  `outcome_list_hidden`: a hidden directory.
-/

namespace DesignAtlas

/-! ### Directories of a storage -/

/-- The directory that names lead to from a directory. -/
def Path.below (directory : Path) (names : List String) : Path :=
  names.foldl Path.join directory

/-- Names lead from a directory to one inside it: each of them is that of a directory among the
entries of the last one. -/
inductive Storage.HasDirectory (storage : Storage) :
    (directory : Path) → (names : List String) → Prop
  /-- No names lead nowhere else. -/
  | here {directory : Path} : storage.HasDirectory directory []
  /-- A name leads to the directory of that name. -/
  | into {directory : Path} {entries : List Entry} {e : Entry} {names : List String} :
      storage.list directory = .ok entries → e ∈ entries → e.isDirectory = true →
        storage.HasDirectory e.path names → storage.HasDirectory directory (e.name :: names)

/-- A search with one possible result finds it. -/
theorem findSome?_eq_some_of_unique {α β : Type} {l : List α} {f : α → Option β} {a : α} {b : β}
    (ha : a ∈ l) (hf : f a = some b) (hunique : ∀ a' ∈ l, ∀ b', f a' = some b' → b' = b) :
    l.findSome? f = some b := by
  have hsome : (l.findSome? f).isSome := List.findSome?_isSome_iff.2 ⟨a, ha, by rw [hf]; rfl⟩
  obtain ⟨found, hfound⟩ := Option.isSome_iff_exists.1 hsome
  obtain ⟨a', ha', hf'⟩ := List.exists_of_findSome?_eq_some hfound
  rw [hfound, hunique a' ha' found hf']

/-- The only folder of a name is the first one. -/
theorem find?_name_eq_some_of_unique {folders : List Folder} {f : Folder} {name : String}
    (hf : f ∈ folders) (hname : f.name = name) (hunique : ∀ g ∈ folders, g.name = name → g = f) :
    (folders.find? fun g => g.name == name) = some f := by
  rw [List.find?_eq_findSome?_guard]
  refine findSome?_eq_some_of_unique hf (Option.guard_pos (beq_iff_eq.2 hname)) ?_
  intro g hg g' hg'
  obtain ⟨rfl, hname'⟩ := Option.guard_eq_some_iff.1 hg'
  exact hunique g hg (beq_iff_eq.1 hname')

namespace IsListing

variable {directory : Path} {entries : List Entry} {e : Entry}

/-- The folder of a listed directory has the name of the directory. -/
theorem name_ofDirectory (h : IsListing directory entries) (he : e ∈ entries) :
    (Folder.ofDirectory e.path).name = e.name := by
  rw [Folder.ofDirectory, Folder.name, h.below e he, Path.fileName?_join (h.named e he),
    Option.getD_some]

/-- The listed directory of a name is found inside a folder that was read. -/
theorem child?_read (h : IsListing directory entries) (he : e ∈ entries)
    (hdirectory : e.isDirectory = true) (name : String) (location : Option Path) :
    (Folder.read name location (entries.map FolderEntry.ofEntry)).child? e.name =
      some (Folder.ofDirectory e.path) := by
  rw [Folder.child?, Folder.children, List.findSome?_map]
  refine findSome?_eq_some_of_unique he ?_ ?_
  · rw [Function.comp_apply, FolderEntry.ofEntry, if_pos hdirectory, FolderEntry.folderNamed?,
      if_pos (h.name_ofDirectory he)]
  · intro e' he' g hg
    rw [Function.comp_apply, FolderEntry.ofEntry] at hg
    split at hg
    · rw [FolderEntry.folderNamed?, h.name_ofDirectory he', Option.ite_none_right_eq_some] at hg
      rw [← Option.some_inj, ← hg.2, h.eq_of_name_eq he' he hg.1]
    · cases hg

/-- The listed directory of a name is found among the directories. -/
theorem find?_directories (h : IsListing directory entries) (he : e ∈ entries)
    (hdirectory : e.isDirectory = true) :
    ((Listing.directories entries).find? fun f => f.name == e.name) =
      some (Folder.ofDirectory e.path) := by
  have hmem : Folder.ofDirectory e.path ∈ Listing.directories entries :=
    List.mem_map_of_mem (List.mem_filter.2 ⟨he, hdirectory⟩)
  refine find?_name_eq_some_of_unique hmem (h.name_ofDirectory he) fun g hg hname => ?_
  obtain ⟨e', he', rfl⟩ := List.mem_map.1 hg
  have he' := (List.mem_filter.1 he').1
  rw [h.name_ofDirectory he'] at hname
  rw [h.eq_of_name_eq he' he hname]

end IsListing

/-! ### Paths of directories -/

namespace Project

/-- The names on both sides of a slash are the names of a path. -/
theorem directoryParts_append_slash (front back : String) :
    directoryParts (front ++ "/" ++ back) = directoryParts front ++ directoryParts back := by
  have htext : (front ++ "/" ++ back).toList = front.toList ++ '/' :: back.toList := by simp
  rw [directoryParts, htext, Path.segments_append_slash, List.filter_append, List.map_append]
  rfl

theorem directoryParts_of_isEntryName {name : String} (h : IsEntryName name) :
    directoryParts name = [name] := by
  obtain ⟨hempty, hslash, -, -⟩ := h
  have hchars : name.toList.isEmpty = false :=
    List.isEmpty_eq_false_iff.2 fun hnil => hempty (String.toList_eq_nil_iff.1 hnil)
  rw [directoryParts, Path.segments_of_notMem hslash, List.filter_singleton, hchars]
  exact congrArg (fun piece => [piece]) String.ofList_toList

/-- The names that lead to a directory are read off the path that they are written as. -/
theorem directoryParts_intercalate {names : List String} (h : ∀ name ∈ names, IsEntryName name) :
    directoryParts ("/".intercalate names) = names := by
  induction names with
  | nil => simp [directoryParts, Path.segments]
  | cons name names ih =>
    obtain ⟨hname, hnames⟩ := List.forall_mem_cons.1 h
    cases names with
    | nil => rw [String.intercalate_singleton, directoryParts_of_isEntryName hname]
    | cons next names =>
      rw [String.intercalate_cons_cons, directoryParts_append_slash,
        directoryParts_of_isEntryName hname, ih hnames, List.singleton_append]

end Project

/-- Names that lead to a directory are names of entries. -/
theorem Storage.HasDirectory.isEntryName {storage : Storage} {directory : Path}
    {names : List String} (h : storage.HasDirectory directory names)
    (hfaithful : storage.IsFaithful) : ∀ name ∈ names, IsEntryName name := by
  induction h with
  | here => exact fun name hname => absurd hname List.not_mem_nil
  | into hlist he _ _ ih =>
    exact List.forall_mem_cons.2 ⟨(hfaithful _ _ hlist).named _ he, ih⟩

/-! ### What stands below a folder -/

namespace Folder

variable {storage : Storage}

/-- From an unread directory names lead to what is listed there. -/
theorem entriesBelow_ofDirectory (hfaithful : storage.IsFaithful) {directory : Path}
    {names : List String} (h : storage.HasDirectory directory names) (asked : String) :
    (ofDirectory directory).entriesBelow storage asked names =
      match storage.list (directory.below names) with
      | .ok entries => .ok (entries.map FolderEntry.ofEntry)
      | .error fault => .error (.project (.file (directory.below names) fault)) := by
  induction h with
  | @here directory =>
    rw [entriesBelow, ofDirectory, expand, Path.below, List.foldl_nil]
    cases storage.list directory <;> rfl
  | @into directory entries e names hlist he hdirectory hbelow ih =>
    have hlisting := hfaithful directory entries hlist
    have hplace : directory.below (e.name :: names) = e.path.below names := by
      rw [Path.below, List.foldl_cons, ← hlisting.below e he, Path.below]
    rw [entriesBelow, ofDirectory, expand, hlist]
    simp only [hlisting.child?_read he hdirectory]
    rw [ih, hplace]

/-- Files hold no folders. -/
theorem entriesBelow_ofFiles (storage : Storage) (asked name : String)
    (files : List (String × Path)) (names : List String) :
    (ofFiles name files).entriesBelow storage asked names =
      match names with
      | [] => .ok (files.map fun file => .file file.1 file.2)
      | next :: _ => .error (.noFolder next asked) := by
  cases names with
  | nil => rfl
  | cons next names =>
    have hnone : (ofFiles name files).child? next = none := by
      rw [child?, ofFiles, children, List.findSome?_map,
        List.findSome?_eq_none_iff]
      exact fun file _ => rfl
    rw [entriesBelow, ofFiles, expand, ← ofFiles]
    simp only [hnone]

end Folder

/-! ### What the first name leads to -/

namespace Listing

variable {included : List (String × Path)} {entries : List Entry} {name : String}

/-- The names of the groups of files, whatever files there are. -/
theorem map_fst_fileGroups (included : List (String × Path)) (entries : List Entry) :
    (fileGroups included entries).map Prod.fst =
      includesName :: bucketCategories.map Prod.fst := by
  rw [fileGroups, List.map_cons, List.map_map]
  rfl

/-- Every group of files has a name of its own. -/
theorem eq_of_mem_fileGroups {files files' : List (String × Path)}
    (h : (name, files) ∈ fileGroups included entries)
    (h' : (name, files') ∈ fileGroups included entries) : files = files' := by
  have hnodup : ((fileGroups included entries).map Prod.fst).Nodup := by
    rw [map_fst_fileGroups]
    decide
  exact congrArg Prod.snd (List.inj_on_of_nodup_map hnodup h h' rfl)

/-- A name leads to the files that are shown under it. -/
theorem find?_buckets_of_mem_fileGroups {files : List (String × Path)}
    (h : (name, files) ∈ fileGroups included entries) (hfiles : files ≠ []) :
    ((buckets included entries).find? fun f => f.name == name) =
      some (Folder.ofFiles name files) := by
  have hmem : (name, files) ∈ (fileGroups included entries).filter fun group => group.2 ≠ [] :=
    List.mem_filter.2 ⟨h, decide_eq_true hfiles⟩
  have hfolder : (Folder.ofFiles name files).name = name := rfl
  rw [buckets_eq, List.find?_append,
    find?_name_eq_some_of_unique (List.mem_map.2 ⟨(name, files), hmem, rfl⟩) hfolder,
    Option.some_or]
  intro g hg hname
  obtain ⟨⟨name', files'⟩, hgroup, rfl⟩ := List.mem_map.1 hg
  obtain rfl : name' = name := hname
  rw [eq_of_mem_fileGroups (List.mem_filter.1 hgroup).1 h]

/-- A name that no files are shown under leads to the directory of that name. -/
theorem find?_buckets_of_isDirectory {root : Path} {e : Entry} (hentries : IsListing root entries)
    (he : e ∈ entries) (hdirectory : e.isDirectory = true)
    (hnone : ∀ files, (e.name, files) ∈ fileGroups included entries → files = []) :
    ((buckets included entries).find? fun f => f.name == e.name) =
      some (Folder.ofDirectory e.path) := by
  rw [buckets_eq, List.find?_append, hentries.find?_directories he hdirectory,
    List.find?_eq_none.2, Option.none_or]
  intro f hf hname
  obtain ⟨⟨name, files⟩, hgroup, rfl⟩ := List.mem_map.1 hf
  obtain ⟨hmem, hfiles⟩ := List.mem_filter.1 hgroup
  obtain rfl : name = e.name := beq_iff_eq.1 hname
  exact of_decide_eq_true hfiles (hnone files hmem)

end Listing

namespace Project

/-- Files are shown under a name when a directory is analyzed: there is a group of that name, and
it holds some. -/
def ShowsFiles (storage : Storage) (schedule : Schedule) (root : Path) (name : String)
    (files : List (String × Path)) : Prop :=
  ∃ entries, storage.list root = .ok entries ∧ files ≠ [] ∧
    (name, files) ∈ Listing.fileGroups
      (((ofRoot root).analyze storage schedule).1.includes.map fun f => (f.name, f.path)) entries

/-- The text that shows the entries of a directory, each on a line of its own and directories with a
slash behind their names. -/
def listingText (entries : List Entry) : String :=
  String.join (entries.map fun e => e.name ++ if e.isDirectory then "/\n" else "\n")

/-- The lines that show listed entries. -/
theorem map_entryLine_ofEntry {directory : Path} {entries : List Entry}
    (h : IsListing directory entries) :
    String.join ((entries.map FolderEntry.ofEntry).map entryLine) = listingText entries := by
  rw [listingText, List.map_map]
  refine congrArg String.join (List.map_congr_left fun e he => ?_)
  rw [Function.comp_apply, FolderEntry.ofEntry]
  split
  · rw [entryLine, h.name_ofDirectory he]
  · rfl

variable {storage : Storage} {schedule : Schedule} {root : Path} {entries : List Entry}
  {names : List String} {name asked : String}

/-- The buckets of an analyzed directory are looked up by name. -/
theorem bucket?_analyze (hlist : storage.list root = .ok entries) (name : String) :
    ((ofRoot root).analyze storage schedule).1.bucket? name =
      (Listing.buckets (((ofRoot root).analyze storage schedule).1.includes.map fun f =>
        (f.name, f.path)) entries).find? fun f => f.name == name := by
  rw [analyze_ofRoot_of_ok hlist]
  rfl

/-- What is asked for by names is looked up below what the first name leads to. -/
theorem directoryEntries_eq {p : Project} {f : Folder}
    (hparts : directoryParts asked = name :: names) (hbucket : p.bucket? name = some f) :
    p.directoryEntries storage asked = f.entriesBelow storage asked names := by
  simp only [directoryEntries, hparts, List.head?_cons, Option.getD_some, hbucket, List.tail_cons]

/-- A project is listed as soon as it is analyzed. -/
theorem outcome_list {i : Invocation} (hlist : storage.list i.root = .ok entries)
    (hrequest : i.request = .list asked) :
    i.outcome storage schedule =
      ((ofRoot i.root).analyze storage schedule).1.listOutcome storage asked := by
  rw [Invocation.outcome, Workspace.ofRoot_eq_ofProject, Workspace.waitForAccomplish_ofProject,
    analyze_ofRoot_of_ok hlist, hrequest]
  simp only [Workspace.project_ofProject]

/-- A directory that names lead to from the root of a project is listed, if no files are shown
under the first of the names. Otherwise these files are listed, and nothing is found below them. -/
theorem outcome_list_of_hasDirectory {i : Invocation} (hfaithful : storage.IsFaithful)
    (hdirectory : storage.HasDirectory i.root (name :: names))
    (hrequest : i.request = .list ("/".intercalate (name :: names))) :
    let directory := i.root.below (name :: names)
    ((∀ files, ¬ShowsFiles storage schedule i.root name files) →
      i.outcome storage schedule = match storage.list directory with
        | .ok listed => .print (listingText listed)
        | .error fault => .failed (.project (.file directory fault))) ∧
    ∀ files, ShowsFiles storage schedule i.root name files →
      i.outcome storage schedule = match names with
        | [] => .print (String.join (files.map fun file => file.1 ++ "\n"))
        | next :: _ => .failed (.noFolder next ("/".intercalate (name :: names))) := by
  intro directory
  have hparts := directoryParts_intercalate (hdirectory.isEntryName hfaithful)
  -- the first name is that of a directory among the entries of the root
  cases hdirectory with
  | @into _ entries e names hlist he hisDirectory hbelow =>
    have hlisting := hfaithful i.root entries hlist
    have hplace : directory = e.path.below names := by
      rw [hlisting.below e he]
      rfl
    rw [outcome_list hlist hrequest]
    constructor
    · intro hnone
      have hbucket := (bucket?_analyze hlist e.name).trans
        (Listing.find?_buckets_of_isDirectory hlisting he hisDirectory fun files hfiles =>
          by_contra fun hne => hnone files ⟨entries, hlist, hne, hfiles⟩)
      rw [listOutcome, directoryEntries_eq hparts hbucket,
        Folder.entriesBelow_ofDirectory hfaithful hbelow, ← hplace]
      cases hlisted : storage.list directory with
      | error fault => rfl
      | ok listed => exact congrArg Outcome.print (map_entryLine_ofEntry (hfaithful _ _ hlisted))
    · rintro files ⟨entries', hlist', hne, hfiles⟩
      obtain rfl := Except.ok.inj (hlist.symm.trans hlist')
      have hbucket := (bucket?_analyze hlist e.name).trans
        (Listing.find?_buckets_of_mem_fileGroups hfiles hne)
      rw [listOutcome, directoryEntries_eq hparts hbucket, Folder.entriesBelow_ofFiles]
      cases names with
      | nil =>
        simp only [List.map_map]
        rfl
      | cons next names => rfl

/-- A directory with two directories and a manual. One of the directories has the name that the
manual is shown under. -/
def manuals : Storage where
  list := fun path =>
    if path.text = "p" then
      .ok [⟨"Documents", ⟨"p/Documents"⟩, true⟩, ⟨"lib", ⟨"p/lib"⟩, true⟩,
        ⟨"manual.pdf", ⟨"p/manual.pdf"⟩, false⟩]
    else if path.text = "p/Documents" then
      .ok [⟨"notes.md", ⟨"p/Documents/notes.md"⟩, false⟩, ⟨"old", ⟨"p/Documents/old"⟩, true⟩]
    else if path.text = "p/Documents/old" then
      .ok [⟨"plan.xls", ⟨"p/Documents/old/plan.xls"⟩, false⟩]
    else if path.text = "p/lib" then .ok [⟨"rtl", ⟨"p/lib/rtl"⟩, true⟩]
    else if path.text = "p/lib/rtl" then
      .ok [⟨"gates", ⟨"p/lib/rtl/gates"⟩, true⟩, ⟨"x.v", ⟨"p/lib/rtl/x.v"⟩, false⟩]
    else .error .denied
  read := fun _ => .error .denied
  isFile := fun _ => true

theorem isFaithful_manuals : manuals.IsFaithful := by
  rintro ⟨text⟩ entries hlist
  simp only [manuals] at hlist
  split_ifs at hlist with hroot hdocuments hold hlib hrtl
  all_goals
    subst text
    cases hlist
    exact { sorted := by decide +kernel
            named := by decide +kernel
            below := by decide +kernel }

/-- A directory is listed whose path does not begin with the name of a group of files. -/
theorem outcome_list_of_hasDirectory_manuals :
    manuals.IsFaithful ∧ manuals.HasDirectory ⟨"p"⟩ ["lib", "rtl"] ∧
      (∀ files, ¬ShowsFiles manuals .inOrder ⟨"p"⟩ "lib" files) ∧
        Invocation.outcome manuals .inOrder ⟨⟨"p"⟩, none, .normal, .list "lib/rtl"⟩ =
          .print "gates/\nx.v\n" := by
  have hdirectory : manuals.HasDirectory ⟨"p"⟩ ["lib", "rtl"] :=
    .into (e := ⟨"lib", ⟨"p/lib"⟩, true⟩) rfl (by decide) rfl
      (.into (e := ⟨"rtl", ⟨"p/lib/rtl"⟩, true⟩) rfl (by decide) rfl .here)
  have hnone : ∀ files, ¬ShowsFiles manuals .inOrder ⟨"p"⟩ "lib" files := by
    rintro files ⟨entries, -, -, hfiles⟩
    have hname : "lib" ∈ _ := List.mem_map_of_mem (f := Prod.fst) hfiles
    rw [Listing.map_fst_fileGroups] at hname
    exact absurd hname (by decide)
  refine ⟨isFaithful_manuals, hdirectory, hnone, ?_⟩
  rw [(outcome_list_of_hasDirectory isFaithful_manuals hdirectory (by decide +kernel)).1 hnone]
  decide +kernel

/-- The directory of the name that the manual is shown under is hidden: the manual is listed in its
place, and the directory below it is not found. -/
theorem outcome_list_hidden :
    manuals.IsFaithful ∧ manuals.HasDirectory ⟨"p"⟩ ["Documents", "old"] ∧
      (∃ listed, manuals.list (Path.below ⟨"p"⟩ ["Documents"]) = .ok listed ∧
        listingText listed = "notes.md\nold/\n") ∧
      Invocation.outcome manuals .inOrder ⟨⟨"p"⟩, none, .normal, .list "Documents"⟩ =
        .print "manual.pdf\n" ∧
      (∃ listed, manuals.list (Path.below ⟨"p"⟩ ["Documents", "old"]) = .ok listed ∧
        listingText listed = "plan.xls\n") ∧
      Invocation.outcome manuals .inOrder ⟨⟨"p"⟩, none, .normal, .list "Documents/old"⟩ =
        .failed (.noFolder "old" "Documents/old") := by
  have hdirectory : manuals.HasDirectory ⟨"p"⟩ ["Documents", "old"] :=
    .into (e := ⟨"Documents", ⟨"p/Documents"⟩, true⟩) rfl (by decide) rfl
      (.into (e := ⟨"old", ⟨"p/Documents/old"⟩, true⟩) rfl (by decide) rfl .here)
  refine ⟨isFaithful_manuals, hdirectory, ⟨_, rfl, ?_⟩, ?_, ⟨_, rfl, ?_⟩, ?_⟩
  · decide +kernel
  · decide +kernel
  · decide +kernel
  · decide +kernel

end Project

end DesignAtlas
