import DesignAtlas.Proofs.Design.Arrangement
import DesignAtlas.Proofs.Text.Places
import DesignAtlas.Workspace.Classification
import DesignAtlas.Workspace.Listing
import Mathlib.Data.List.Induction
import Mathlib.Data.List.Perm.Basic

/-!
# Sorting the entries of a directory

The rules for the categories overlap, as in `code1.pdf` or `java.v`, and the first one that fits
decides. So every file has one category, and a directory falls apart into its files by category and
its directories.

* `FileCategory.Fits`: what the rule of a category asks of a name. `FileCategory.rules`: the
  categories in the order of their rules.
* `FileCategory.isFirst_iff`: the category of a name is that of the first rule that fits.
* `Listing.Parts`: entries sorted into files by category and directories, none of them lost or
  doubled. `Listing.Parts.pushed`: the files of a category as they stand in a bucket.
* `Classification.ofEntries_eq`: what is there when all entries were taken, one behind the other.
* `Classification.ofEntries_of_parts`: a classification holds such parts, and all of them but the
  sources are shown.
-/

namespace DesignAtlas

namespace FileCategory

/-! ### The category of a name -/

/-- A name ends in one of some endings. -/
def EndsIn (endings : List String) (name : List Char) : Prop :=
  ∃ ending ∈ endings, ∃ front, front ++ ending.toList = name

/-- What the rule of a category asks of a name. The last rule fits every name. -/
def Fits : FileCategory → (name : List Char) → Prop
  | document, name => EndsIn documentEndings (name.map Char.toLower)
  | testCase, name => ∃ rest, "code".toList ++ rest = name.map Char.toLower
  | source, name => EndsIn sourceEndings name
  | tool, name => EndsIn toolEndings (name.map Char.toLower) ∨
      ∃ front behind, front ++ "java".toList ++ behind = name.map Char.toLower
  | waveform, name => EndsIn [".vcd"] (name.map Char.toLower)
  | other, _ => True

/-- The categories in the order of their rules. -/
def rules : List FileCategory :=
  [document, testCase, source, tool, waveform, other]

/-- The rule of a category is the first one that fits a name. -/
def IsFirst (category : FileCategory) (name : String) : Prop :=
  category.Fits name.toList ∧ ∃ earlier later, rules = earlier ++ category :: later ∧
    ∀ passed ∈ earlier, ¬passed.Fits name.toList

theorem mem_rules (category : FileCategory) : category ∈ rules := by
  cases category <;> decide

theorem hasEnding_iff {endings : List String} {name : List Char} :
    hasEnding endings name = true ↔ EndsIn endings name := by
  rw [hasEnding, List.any_eq_true]
  exact exists_congr fun ending => and_congr_right fun _ => List.isSuffixOf_iff_suffix

/-- Whether the rule of a category fits a name. -/
def fits : FileCategory → (name : List Char) → Bool
  | document, name => hasEnding documentEndings (name.map Char.toLower)
  | testCase, name => "code".toList.isPrefixOf (name.map Char.toLower)
  | source, name => hasEnding sourceEndings name
  | tool, name => hasEnding toolEndings (name.map Char.toLower) ||
      (Text.cut? "java".toList (name.map Char.toLower)).isSome
  | waveform, name => hasEnding [".vcd"] (name.map Char.toLower)
  | other, _ => true

theorem fits_iff {category : FileCategory} {name : List Char} :
    category.fits name = true ↔ category.Fits name := by
  cases category with
  | document | source | waveform => exact hasEnding_iff
  | testCase => exact List.isPrefixOf_iff_prefix
  | tool =>
    rw [fits, Bool.or_eq_true, hasEnding_iff, Text.isSome_cut?_iff]
    rfl
  | other => exact iff_of_true rfl trivial

/-- The rules are tried one behind the other. -/
theorem find?_rules (name : String) :
    rules.find? (fun category => category.fits name.toList) = some (ofName name) := by
  simp only [rules, List.find?_cons, fits, ofName]
  repeat' split
  all_goals simp_all

/-- The category of a name is the one whose rule is the first that fits. -/
theorem isFirst_iff {category : FileCategory} {name : String} :
    category.IsFirst name ↔ ofName name = category := by
  rw [← Option.some_inj, ← find?_rules, List.find?_eq_some_iff_append, fits_iff, IsFirst]
  simp only [Bool.not_eq_true', Bool.eq_false_iff, ne_eq, fits_iff]

-- two rules fit each of these names
example : ["code1.pdf", "code.v", "java.v"].map ofName = [document, testCase, source] := by
  decide +kernel

end FileCategory

namespace Listing

/-! ### The parts of a directory -/

/-- Entries sorted into files by category and directories. -/
structure Parts (entries : List Entry) where
  /-- The files of every category. -/
  files : FileCategory → List Entry
  /-- The directories. -/
  directories : List Entry
  /-- Every entry stands in one part, as often as it stands among the entries. -/
  perm : (FileCategory.rules.flatMap files ++ directories).Perm entries
  /-- The files of a category keep their order. -/
  files_sublist : ∀ category, List.Sublist (files category) entries
  /-- The directories keep their order. -/
  directories_sublist : List.Sublist directories entries
  /-- The files of a category are files, and its rule is the first one that fits their names. -/
  isFirst : ∀ category, ∀ e ∈ files category,
    e.isDirectory = false ∧ category.IsFirst e.name
  /-- The directories are directories. -/
  isDirectory : ∀ e ∈ directories, e.isDirectory = true

/-- The files of a category as entries of a folder. -/
def Parts.pushed {entries : List Entry} (parts : Parts entries) (category : FileCategory) :
    List NodeEntry :=
  (parts.files category).map fun e => .file e.name e.path

/-- The buckets of the categories with their names, in the order they are shown in. -/
def Parts.buckets {entries : List Entry} (parts : Parts entries) :
    List (String × List NodeEntry) :=
  [("Documents", parts.pushed .document), ("TestCases", parts.pushed .testCase),
    ("Tools", parts.pushed .tool), ("VCDs", parts.pushed .waveform),
    ("OtherFiles", parts.pushed .other)]

/-- The directories as folders in which nothing was read. A directory is named by the last component
of its path, or by all of it if there is no such component. -/
def Parts.unread {entries : List Entry} (parts : Parts entries) : List FolderNode :=
  parts.directories.map fun e =>
    .mk (e.path.fileName?.getD e.path.text) (some e.path) [] false

variable {entries : List Entry}

theorem nodup_rules : FileCategory.rules.Nodup := by
  decide

/-- The files of all categories are the files. -/
theorem flatMap_filesOf_perm (entries : List Entry) :
    (FileCategory.rules.flatMap fun category => filesOf category entries).Perm
      (entries.filter fun e => !e.isDirectory) := by
  let files := entries.filter fun e => !e.isDirectory
  have hgroups := flatMap_filter_perm nodup_rules
    (fun e : Entry => FileCategory.ofName e.name) files
  have hall : (files.filter fun e => FileCategory.ofName e.name ∈ FileCategory.rules) = files :=
    List.filter_eq_self.2 fun e _ => decide_eq_true (FileCategory.mem_rules _)
  have hfilesOf : ∀ category, (files.filter fun e => FileCategory.ofName e.name == category) =
      filesOf category entries := by
    intro category
    rw [List.filter_filter, filesOf]
    exact List.filter_congr fun e _ => Bool.and_comm _ _
  rw [hall] at hgroups
  simpa only [hfilesOf] using hgroups

/-- The files by category and the directories are all entries. -/
theorem filesOf_append_directories_perm (entries : List Entry) :
    ((FileCategory.rules.flatMap fun category => filesOf category entries) ++
      entries.filter Entry.isDirectory).Perm entries := by
  refine ((flatMap_filesOf_perm entries).append_right _).trans ?_
  refine List.perm_append_comm.trans ?_
  exact List.filter_append_perm Entry.isDirectory entries

/-- The entries of every directory can be sorted into parts. -/
theorem nonempty_parts (entries : List Entry) : Nonempty (Parts entries) := by
  refine ⟨⟨fun category => filesOf category entries, entries.filter Entry.isDirectory,
    filesOf_append_directories_perm entries, fun _ => List.filter_sublist, List.filter_sublist,
    fun category e he => ?_, fun e he => (List.mem_filter.1 he).2⟩⟩
  obtain ⟨-, hfile⟩ := List.mem_filter.1 he
  rw [Bool.and_eq_true, Bool.not_eq_true', beq_iff_eq] at hfile
  exact ⟨hfile.1, FileCategory.isFirst_iff.2 hfile.2⟩

namespace Parts

variable (parts : Parts entries)

theorem ofName_of_mem_files {category : FileCategory} {e : Entry}
    (he : e ∈ parts.files category) : FileCategory.ofName e.name = category :=
  FileCategory.isFirst_iff.1 (parts.isFirst category e he).2

/-- The directories among some entries are those of the parts. -/
theorem directories_eq : parts.directories = entries.filter Entry.isDirectory := by
  have hself : parts.directories.filter Entry.isDirectory = parts.directories :=
    List.filter_eq_self.2 parts.isDirectory
  have hfiles : (FileCategory.rules.flatMap parts.files).filter Entry.isDirectory = [] := by
    rw [List.filter_eq_nil_iff]
    intro e he
    obtain ⟨category, -, he⟩ := List.mem_flatMap.1 he
    rw [(parts.isFirst category e he).1]
    exact Bool.false_ne_true
  have hperm := parts.perm.filter Entry.isDirectory
  rw [List.filter_append, hfiles, hself, List.nil_append] at hperm
  have hsublist := parts.directories_sublist.filter Entry.isDirectory
  rw [hself] at hsublist
  exact hsublist.eq_of_length hperm.length_eq

/-- The files of a category among some entries are those of the parts. -/
theorem files_eq (category : FileCategory) : parts.files category = filesOf category entries := by
  let isOf (e : Entry) : Bool := !e.isDirectory && FileCategory.ofName e.name == category
  have hself : (parts.files category).filter isOf = parts.files category := by
    refine List.filter_eq_self.2 fun e he => ?_
    simp only [isOf, (parts.isFirst category e he).1, parts.ofName_of_mem_files he, Bool.not_false,
      Bool.true_and, beq_self_eq_true]
  have hothers : ∀ different, different ≠ category → (parts.files different).filter isOf = [] := by
    intro different hdifferent
    refine List.filter_eq_nil_iff.2 fun e he => ?_
    simpa only [isOf, parts.ofName_of_mem_files he, (parts.isFirst different e he).1,
      Bool.not_false, Bool.true_and, beq_iff_eq] using hdifferent
  have hdirectories : parts.directories.filter isOf = [] := by
    refine List.filter_eq_nil_iff.2 fun e he => ?_
    simp only [isOf, parts.isDirectory e he, Bool.not_true, Bool.false_and, Bool.false_eq_true,
      not_false_eq_true]
  -- of all parts only that of the category is left
  have hperm := parts.perm.filter isOf
  have hleft : (FileCategory.rules.flatMap parts.files).filter isOf = parts.files category := by
    rw [List.filter_flatMap]
    cases category <;> simp [FileCategory.rules, hself, hothers]
  rw [List.filter_append, hleft, hdirectories, List.append_nil] at hperm
  have hsublist := (parts.files_sublist category).filter isOf
  rw [hself] at hsublist
  exact hsublist.eq_of_length hperm.length_eq

end Parts

/-- The names that files are shown under, with these files: the included ones and those of the
categories. -/
def fileGroups (included : List (String × Path)) (entries : List Entry) :
    List (String × List (String × Path)) :=
  (includesName, included) :: bucketCategories.map fun named =>
    (named.1, (filesOf named.2 entries).map fun e => (e.name, e.path))

/-- The groups that hold anything are buckets, and the directories follow them. -/
theorem buckets_eq (included : List (String × Path)) (entries : List Entry) :
    buckets included entries =
      (((fileGroups included entries).filter fun group => group.2 ≠ []).map fun group =>
        Folder.ofFiles group.1 group.2) ++ directories entries := by
  have hgroups : fileBuckets included entries =
      (fileGroups included entries).map fun group => Folder.ofFiles group.1 group.2 := by
    rw [fileBuckets, fileGroups, List.map_cons, List.map_map]
    rfl
  have hempty : ∀ group : String × List (String × Path),
      (!(Folder.ofFiles group.1 group.2).children.isEmpty) = decide (group.2 ≠ []) := by
    rintro ⟨name, files⟩
    cases files <;> rfl
  rw [buckets, hgroups, List.filter_map]
  simp only [Function.comp_def, hempty]

end Listing

namespace Classification

/-- The files of a category as entries of a folder. -/
def pushed (category : FileCategory) (entries : List Entry) : List NodeEntry :=
  (Listing.filesOf category entries).map fun e => .file e.name e.path

/-- A file is pushed behind the files of its category, and those of the other categories stay. -/
theorem pushed_concat (category : FileCategory) (entries : List Entry) {e : Entry}
    (he : e.isDirectory = false) : pushed category (entries ++ [e]) =
      pushed category entries ++
        if FileCategory.ofName e.name = category then [.file e.name e.path] else [] := by
  rw [pushed, Listing.filesOf, List.filter_append, List.map_append, List.filter_singleton, he]
  by_cases hcategory : FileCategory.ofName e.name = category
  · simp [pushed, Listing.filesOf, hcategory]
  · simp [pushed, Listing.filesOf, hcategory, beq_eq_false_iff_ne.2 hcategory]

theorem pushed_concat_directory (category : FileCategory) (entries : List Entry) {e : Entry}
    (he : e.isDirectory = true) : pushed category (entries ++ [e]) = pushed category entries := by
  rw [pushed, Listing.filesOf, List.filter_append, List.filter_singleton, he]
  simp [pushed, Listing.filesOf]

theorem sources_concat (entries : List Entry) (e : Entry) : Listing.sources (entries ++ [e]) =
    Listing.sources entries ++
      if e.isDirectory = false ∧ FileCategory.ofName e.name = .source then [e] else [] := by
  rw [Listing.sources, Listing.filesOf, List.filter_append, List.filter_singleton]
  simp [Listing.sources, Listing.filesOf]

/-- When all entries were taken, one behind the other, the sources, the buckets and the directories
hold the entries that belong to them. -/
theorem ofEntries_eq (entries : List Entry) :
    ofEntries entries =
      { sources := Listing.sources entries
        documents := .mk "Documents" none (pushed .document entries) true
        testCases := .mk "TestCases" none (pushed .testCase entries) true
        tools := .mk "Tools" none (pushed .tool entries) true
        waveforms := .mk "VCDs" none (pushed .waveform entries) true
        others := .mk "OtherFiles" none (pushed .other entries) true
        directories := (entries.filter Entry.isDirectory).map fun e => .directory e.path } := by
  induction entries using List.reverseRecOn with
  | nil => rfl
  | append_singleton entries e ih =>
    have hstep : ofEntries (entries ++ [e]) = (ofEntries entries).add e := by
      rw [ofEntries, List.foldl_append]
      rfl
    rw [hstep, ih, add, sources_concat, List.filter_append, List.map_append]
    cases hdirectory : e.isDirectory with
    | true =>
      simp [pushed_concat_directory _ _ hdirectory, hdirectory]
    | false =>
      cases hcategory : FileCategory.ofName e.name <;>
        simp [pushed_concat _ _ hdirectory, hdirectory, hcategory, FolderNode.pushFile]

/-- Of the buckets those are kept that hold anything. -/
theorem filter_buckets (includes : FolderNode) (buckets : List (String × List NodeEntry)) :
    (includes :: buckets.map fun bucket => .mk bucket.1 none bucket.2 true).filter (!·.isEmpty) =
      (if includes.children = [] then [] else [includes]) ++
        (buckets.filter fun bucket => !bucket.2.isEmpty).map fun bucket =>
          .mk bucket.1 none bucket.2 true := by
  rw [List.filter_cons, List.filter_map, FolderNode.isEmpty]
  cases includes.children <;> rfl

/-- The entries of every directory can be sorted into parts: all files by the first rule that fits
their names, and the directories, none of them lost or doubled and all in their order. However
that is done, a classification holds these parts. The buckets that hold anything are shown, the one
of the included files first, and then the directories. -/
theorem ofEntries_of_parts (entries : List Entry) :
    Nonempty (Listing.Parts entries) ∧ ∀ parts : Listing.Parts entries,
      (ofEntries entries).sources = parts.files .source ∧
      (ofEntries entries).documents = .mk "Documents" none (parts.pushed .document) true ∧
      (ofEntries entries).testCases = .mk "TestCases" none (parts.pushed .testCase) true ∧
      (ofEntries entries).tools = .mk "Tools" none (parts.pushed .tool) true ∧
      (ofEntries entries).waveforms = .mk "VCDs" none (parts.pushed .waveform) true ∧
      (ofEntries entries).others = .mk "OtherFiles" none (parts.pushed .other) true ∧
      (ofEntries entries).directories = parts.unread ∧
      ∀ includes : FolderNode, (ofEntries entries).intoBuckets includes =
        (if includes.children = [] then [] else [includes]) ++
          ((parts.buckets.filter fun bucket => !bucket.2.isEmpty).map fun bucket =>
            .mk bucket.1 none bucket.2 true) ++ parts.unread := by
  refine ⟨Listing.nonempty_parts entries, fun parts => ?_⟩
  have hpushed : ∀ category, pushed category entries = parts.pushed category := by
    intro category
    rw [pushed, Listing.Parts.pushed, parts.files_eq]
  have hunread : ((entries.filter Entry.isDirectory).map fun e => FolderNode.directory e.path) =
      parts.unread := by
    rw [Listing.Parts.unread, parts.directories_eq]
    rfl
  have hsources : Listing.sources entries = parts.files .source := (parts.files_eq .source).symm
  rw [ofEntries_eq, hunread, hsources, hpushed, hpushed, hpushed, hpushed, hpushed]
  exact ⟨rfl, rfl, rfl, rfl, rfl, rfl, rfl, fun includes =>
    congrArg (· ++ parts.unread) (filter_buckets includes parts.buckets)⟩

end Classification

end DesignAtlas
