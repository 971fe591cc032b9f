import DesignAtlas.Proofs.Json.RoundTrip
import DesignAtlas.Report.Document

/-!
# The text of a document

The text of a document is read back as the value of the project, whatever characters the names and
paths are made of, so everything that the value shows can be told from the text. It does not show
whether a directory without known entries has been read.

* `Json.Value.HasSortedNames`: the fields of every object stand in the order of their names.
* `Folder.asRead`: what a folder shows. Its value tells that and nothing else.
* `Project.shown`: what a document shows of a project.
* `Project.toValue_eq_iff`: values are equal if they show the same.
* `Project.read?_document`: the text of a document, read back.
-/

namespace DesignAtlas

open Json (Value)

/-- The fields of every object in a value stand in the order of their names, each name once. -/
inductive Json.Value.HasSortedNames : Value → Prop where
  /-- The absent value has no fields. -/
  | null : HasSortedNames .null
  /-- A number has no fields. -/
  | number (n : Nat) : HasSortedNames (.number n)
  /-- A string has no fields. -/
  | text (s : String) : HasSortedNames (.text s)
  /-- An array has the fields of its items. -/
  | list {items : List Value} (hitems : ∀ item ∈ items, HasSortedNames item) :
    HasSortedNames (.list items)
  /-- An object has its own fields and those of their values. -/
  | object {fields : List (String × Value)}
    (hnames : (fields.map Prod.fst).Pairwise (· < ·))
    (hvalues : ∀ field ∈ fields, HasSortedNames field.2) : HasSortedNames (.object fields)

theorem Json.Value.hasSortedNames_texts (items : List String) :
    (Value.texts items).HasSortedNames := by
  refine .list fun item hitem => ?_
  obtain ⟨s, -, rfl⟩ := List.mem_map.1 hitem
  exact .text s

theorem Json.Value.hasSortedNames_numbers (items : List Nat) :
    (Value.numbers items).HasSortedNames := by
  refine .list fun item hitem => ?_
  obtain ⟨n, -, rfl⟩ := List.mem_map.1 hitem
  exact .number n

/-! ### Files -/

theorem hasSortedNames_fileValue (name : String) (path : Path) :
    (fileValue name path).HasSortedNames := by
  have hnames : ["name", "path"].Pairwise (· < ·) := by decide
  refine .object hnames ?_
  simp only [List.forall_mem_cons]
  exact ⟨.text _, .text _, List.forall_mem_nil _⟩

/-- The value of a file shows its name and its path. -/
theorem fileValue_eq_iff {name name' : String} {path path' : Path} :
    fileValue name path = fileValue name' path' ↔ name = name' ∧ path = path' := by
  cases path
  cases path'
  simp [fileValue]

/-! ### Folders -/

mutual

/-- A folder as if it had been read, with everything inside it. A directory that has not been read
stands for one without entries. -/
def Folder.asRead : Folder → Folder
  | .unread name location => .read name (some location) []
  | .read name location children => .read name location (FolderEntry.allAsRead children)

/-- Entries as if they had been read. -/
def FolderEntry.allAsRead : List FolderEntry → List FolderEntry
  | [] => []
  | .file name path :: entries => .file name path :: FolderEntry.allAsRead entries
  | .folder f :: entries => .folder f.asRead :: FolderEntry.allAsRead entries

end

/-- The value of an entry. -/
def FolderEntry.toValue : FolderEntry → Value
  | .file name path => fileValue name path
  | .folder f => f.toValue

/-- An entry as if it had been read. -/
def FolderEntry.asRead : FolderEntry → FolderEntry
  | .file name path => .file name path
  | .folder f => .folder f.asRead

theorem FolderEntry.toValues_eq_map (entries : List FolderEntry) :
    FolderEntry.toValues entries = entries.map FolderEntry.toValue := by
  induction entries with
  | nil => rw [toValues, List.map_nil]
  | cons entry entries ih =>
    cases entry <;> rw [toValues, ih, List.map_cons, FolderEntry.toValue]

theorem FolderEntry.allAsRead_eq_map (entries : List FolderEntry) :
    FolderEntry.allAsRead entries = entries.map FolderEntry.asRead := by
  induction entries with
  | nil => rw [allAsRead, List.map_nil]
  | cons entry entries ih =>
    cases entry <;> rw [allAsRead, ih, List.map_cons, FolderEntry.asRead]

namespace Folder

/-- What holds of a folder whenever it holds of the folders inside it, holds of every folder. -/
@[elab_as_elim]
theorem induction {motive : Folder → Prop}
    (inside : ∀ f, (∀ g, .folder g ∈ f.children → motive g) → motive f) (f : Folder) :
    motive f := by
  -- of an entry it holds if the entry is a file or holds of the folder that it is
  refine @Folder.rec motive (fun entry => ∀ g, entry = .folder g → motive g)
    (fun entries => ∀ g, .folder g ∈ entries → motive g) ?unread ?read ?file ?folder ?nil ?cons f
  case unread => exact fun _ _ => inside _ fun _ hmem => absurd hmem List.not_mem_nil
  case read => exact fun _ _ _ hchildren => inside _ hchildren
  case file =>
    intro _ _ _ heq
    cases heq
  case folder => exact fun _ hf _ heq => FolderEntry.folder.inj heq ▸ hf
  case nil => exact fun _ hmem => absurd hmem List.not_mem_nil
  case cons =>
    intro entry entries hentry hentries g hg
    rcases List.mem_cons.1 hg with hg | hg
    · exact hentry g hg.symm
    · exact hentries g hg

theorem toValue_eq (f : Folder) :
    f.toValue = .object [("children", .list (f.children.map FolderEntry.toValue)),
      ("location", Value.ofOption (f.location?.map Path.text)), ("name", .text f.name)] := by
  cases f with
  | unread name location => rw [toValue]; rfl
  | read name location children => rw [toValue, FolderEntry.toValues_eq_map]; rfl

theorem asRead_eq (f : Folder) :
    f.asRead = read f.name f.location? (f.children.map FolderEntry.asRead) := by
  cases f with
  | unread name location => rw [asRead]; rfl
  | read name location children => rw [asRead, FolderEntry.allAsRead_eq_map]; rfl

theorem hasSortedNames_toValue (f : Folder) : f.toValue.HasSortedNames := by
  induction f using Folder.induction with
  | inside f ih =>
    have hchildren : (Value.list (f.children.map FolderEntry.toValue)).HasSortedNames := by
      refine .list fun item hitem => ?_
      obtain ⟨entry, hentry, rfl⟩ := List.mem_map.1 hitem
      cases entry with
      | file name path => exact hasSortedNames_fileValue name path
      | folder inner => exact ih inner hentry
    have hlocation : (Value.ofOption (f.location?.map Path.text)).HasSortedNames := by
      cases f.location? with
      | none => exact .null
      | some location => exact .text _
    have hnames : ["children", "location", "name"].Pairwise (· < ·) := by decide
    rw [toValue_eq]
    refine .object hnames ?_
    simp only [List.forall_mem_cons]
    exact ⟨hchildren, hlocation, .text _, List.forall_mem_nil _⟩

/-- A file is never taken for a folder: a folder has children, and a file has a path. -/
theorem toValue_ne_fileValue (f : Folder) (name : String) (path : Path) :
    f.toValue ≠ fileValue name path := by
  rw [toValue_eq, fileValue]
  simp

theorem ofOption_map_text_eq_iff {location location' : Option Path} :
    Value.ofOption (location.map Path.text) = Value.ofOption (location'.map Path.text) ↔
      location = location' := by
  rcases location with _ | ⟨⟨text⟩⟩ <;> rcases location' with _ | ⟨⟨text'⟩⟩ <;>
    simp [Value.ofOption]

/-- Folders with the same value show the same. -/
theorem toValue_eq_iff (f : Folder) :
    ∀ g : Folder, f.toValue = g.toValue ↔ f.asRead = g.asRead := by
  induction f using Folder.induction with
  | inside f ih =>
    intro g
    -- two files or two folders are compared by what they show; a file and a folder never agree
    have hentry : ∀ entry ∈ f.children, ∀ other : FolderEntry,
        entry.toValue = other.toValue ↔ entry.asRead = other.asRead := by
      rintro (⟨name, path⟩ | inner) hentry (⟨name', path'⟩ | inner')
      · rw [FolderEntry.asRead, FolderEntry.asRead, FolderEntry.file.injEq]
        exact fileValue_eq_iff
      · exact iff_of_false (toValue_ne_fileValue _ _ _).symm (by simp [FolderEntry.asRead])
      · exact iff_of_false (toValue_ne_fileValue _ _ _) (by simp [FolderEntry.asRead])
      · rw [FolderEntry.asRead, FolderEntry.asRead, FolderEntry.folder.injEq]
        exact ih inner hentry inner'
    have hchildren : f.children.map FolderEntry.toValue = g.children.map FolderEntry.toValue ↔
        f.children.map FolderEntry.asRead = g.children.map FolderEntry.asRead :=
      Json.map_eq_map_iff_of_forall hentry
    rw [toValue_eq, toValue_eq, asRead_eq, asRead_eq, Folder.read.injEq]
    simp only [Value.object.injEq, List.cons.injEq, Prod.mk.injEq, Value.list.injEq,
      Value.text.injEq, ofOption_map_text_eq_iff, hchildren, true_and, and_true]
    exact ⟨fun ⟨hentries, hlocation, hname⟩ => ⟨hname, hlocation, hentries⟩,
      fun ⟨hname, hlocation, hentries⟩ => ⟨hentries, hlocation, hname⟩⟩

end Folder

/-! ### The table of modules -/

/-- An entry of the table of modules. -/
structure ModuleEntry where
  /-- The id of the module. -/
  id : ModuleId
  /-- The name of the module. -/
  name : String
  /-- The name of the file that defines it. -/
  file : String
  /-- The line of its header. -/
  line : Nat
  /-- Its instances with the ids of the modules that they are instances of, in order. -/
  children : List (String × ModuleId)
  deriving DecidableEq, Repr

namespace Registry

/-- The entry of a module. -/
def tableEntry (r : Registry) (id : ModuleId) (m : Module) : ModuleEntry :=
  ⟨id, m.name, m.file, m.line, r.submodules id⟩

/-- The entries of all modules, in the order of their ids. -/
def tableEntries (r : Registry) : List ModuleEntry :=
  r.modules.zipIdx.map fun entry => r.tableEntry entry.2 entry.1

/-- The value of an instance with the id of the module that it is an instance of. -/
def instanceValue (instantiated : String × ModuleId) : Value :=
  .object [("instance", .text instantiated.1), ("module", .number instantiated.2)]

theorem moduleValue_eq (r : Registry) (id : ModuleId) (m : Module) :
    r.moduleValue id m = .object [("children", .list ((r.submodules id).map instanceValue)),
      ("file", .text m.file), ("id", .number id), ("line", .number m.line),
      ("name", .text m.name)] := rfl

/-- The value of a module shows its entry. -/
theorem moduleValue_eq_iff {r s : Registry} {id id' : ModuleId} {m m' : Module} :
    r.moduleValue id m = s.moduleValue id' m' ↔ r.tableEntry id m = s.tableEntry id' m' := by
  have hinstance : ∀ c c' : String × ModuleId, instanceValue c = instanceValue c' → c = c' := by
    intro c c' heq
    simp only [instanceValue, Value.object.injEq, List.cons.injEq, Prod.mk.injEq,
      Value.text.injEq, Value.number.injEq, true_and, and_true] at heq
    exact Prod.ext heq.1 heq.2
  rw [moduleValue_eq, moduleValue_eq, tableEntry, tableEntry]
  simp only [Value.object.injEq, List.cons.injEq, Prod.mk.injEq, Value.list.injEq,
    Value.text.injEq, Value.number.injEq, List.map_inj_right hinstance, ModuleEntry.mk.injEq,
    true_and, and_true]
  exact ⟨fun ⟨hchildren, hfile, hid, hline, hname⟩ => ⟨hid, hname, hfile, hline, hchildren⟩,
    fun ⟨hid, hname, hfile, hline, hchildren⟩ => ⟨hchildren, hfile, hid, hline, hname⟩⟩

theorem moduleTable_eq_iff {r s : Registry} :
    r.moduleTable = s.moduleTable ↔ r.tableEntries = s.tableEntries := by
  rw [moduleTable, moduleTable, Value.list.injEq]
  exact Json.map_eq_map_iff_of_forall fun _ _ _ => moduleValue_eq_iff

theorem hasSortedNames_instanceValue (instantiated : String × ModuleId) :
    (instanceValue instantiated).HasSortedNames := by
  have hnames : ["instance", "module"].Pairwise (· < ·) := by decide
  refine .object hnames ?_
  simp only [List.forall_mem_cons]
  exact ⟨.text _, .number _, List.forall_mem_nil _⟩

theorem hasSortedNames_moduleTable (r : Registry) : r.moduleTable.HasSortedNames := by
  refine .list fun item hitem => ?_
  obtain ⟨entry, -, rfl⟩ := List.mem_map.1 hitem
  have hchildren : (Value.list ((r.submodules entry.2).map instanceValue)).HasSortedNames := by
    refine .list fun item hitem => ?_
    obtain ⟨instantiated, -, rfl⟩ := List.mem_map.1 hitem
    exact hasSortedNames_instanceValue instantiated
  have hnames : ["children", "file", "id", "line", "name"].Pairwise (· < ·) := by decide
  rw [moduleValue_eq]
  refine .object hnames ?_
  simp only [List.forall_mem_cons]
  exact ⟨hchildren, .text _, .number _, .number _, .text _, List.forall_mem_nil _⟩

end Registry

/-! ### Documents -/

/-- What a document shows of a project. -/
structure Shown where
  /-- The root directory. -/
  root : Path
  /-- The name of the state of progress. -/
  state : String
  /-- The names of the source files. -/
  sources : List String
  /-- The table of modules. -/
  modules : List ModuleEntry
  /-- The ids of the modules that no module instantiates. -/
  roots : List ModuleId
  /-- The included source files. -/
  includes : List IncludedFile
  /-- The source files that could not be read. -/
  skipped : List Path
  /-- The files and directories, as if all had been read. -/
  buckets : List Folder

namespace Project

/-- What the document of a project shows. -/
def shown (p : Project) : Shown where
  root := p.root
  state := p.progress.name
  sources := p.sources
  modules := p.registry.tableEntries
  roots := p.roots
  includes := p.includes
  skipped := p.skipped
  buckets := p.buckets.map Folder.asRead

/-- Projects with the same value show the same. -/
theorem toValue_eq_iff {p q : Project} : p.toValue = q.toValue ↔ p.shown = q.shown := by
  have hpath : ∀ {path path' : Path}, path.text = path'.text ↔ path = path' := by
    rintro ⟨text⟩ ⟨text'⟩
    rw [Path.mk.injEq]
  have htext : ∀ s s', Value.text s = .text s' → s = s' := fun _ _ => Value.text.inj
  have hnumber : ∀ n n', Value.number n = .number n' → n = n' := fun _ _ => Value.number.inj
  have hincludes : p.includes.map (fun file => fileValue file.name file.path) =
      q.includes.map (fun file => fileValue file.name file.path) ↔ p.includes = q.includes := by
    refine List.map_inj_right fun file file' heq => ?_
    obtain ⟨hname, hsame⟩ := fileValue_eq_iff.1 heq
    cases file
    cases file'
    rw [IncludedFile.mk.injEq]
    exact ⟨hname, hsame⟩
  have hbuckets : p.buckets.map Folder.toValue = q.buckets.map Folder.toValue ↔
      p.buckets.map Folder.asRead = q.buckets.map Folder.asRead :=
    Json.map_eq_map_iff_of_forall fun f _ => f.toValue_eq_iff
  rw [toValue, toValue, shown, shown]
  simp only [Value.texts, Value.numbers, Value.object.injEq, List.cons.injEq, Prod.mk.injEq,
    Value.list.injEq, Value.text.injEq, List.map_inj_right htext, List.map_inj_right hnumber,
    List.map_inj_right (fun _ _ => hpath.1), hpath, Registry.moduleTable_eq_iff, hincludes,
    hbuckets, Shown.mk.injEq, true_and, and_true]
  -- a document has its fields in the order of their names
  constructor
  · rintro ⟨hbuckets, hincludes, hmodules, hroot, hroots, hskipped, hsources, hstate⟩
    exact ⟨hroot, hstate, hsources, hmodules, hroots, hincludes, hskipped, hbuckets⟩
  · rintro ⟨hroot, hstate, hsources, hmodules, hroots, hincludes, hskipped, hbuckets⟩
    exact ⟨hbuckets, hincludes, hmodules, hroot, hroots, hskipped, hsources, hstate⟩

theorem hasSortedNames_toValue (p : Project) : p.toValue.HasSortedNames := by
  have hbuckets : (Value.list (p.buckets.map Folder.toValue)).HasSortedNames := by
    refine .list fun item hitem => ?_
    obtain ⟨f, -, rfl⟩ := List.mem_map.1 hitem
    exact f.hasSortedNames_toValue
  have hincludes : (Value.list
      (p.includes.map fun file => fileValue file.name file.path)).HasSortedNames := by
    refine .list fun item hitem => ?_
    obtain ⟨file, -, rfl⟩ := List.mem_map.1 hitem
    exact hasSortedNames_fileValue file.name file.path
  have hnames : ["buckets", "includes", "modules", "root", "roots", "skipped", "sources",
      "state"].Pairwise (· < ·) := by decide
  rw [toValue]
  refine .object hnames ?_
  simp only [List.forall_mem_cons]
  exact ⟨hbuckets, hincludes, p.registry.hasSortedNames_moduleTable, .text _,
    Value.hasSortedNames_numbers _, Value.hasSortedNames_texts _, Value.hasSortedNames_texts _,
    .text _, List.forall_mem_nil _⟩

/-- The text of a document is read back as the value of the project, whose names are sorted, and
the compact text is one line. So projects have the same text if and only if they show the same. -/
theorem read?_document (p : Project) (layout : Json.Layout) :
    Json.read? (p.document layout) = some p.toValue.toNode ∧
    p.toValue.HasSortedNames ∧
    '\n' ∉ (p.document .compact).toList ∧
    ∀ q : Project, p.document layout = q.document layout ↔ p.shown = q.shown := by
  refine ⟨Json.read?_write layout p.toValue, p.hasSortedNames_toValue, fun hmem => ?_, fun q => ?_⟩
  · rw [document, Value.write, String.toList_ofList] at hmem
    exact absurd (Json.le_toNat_of_mem_writeValue p.toValue 0 '\n' hmem) (by decide)
  · rw [← toValue_eq_iff]
    exact (Json.write_injective layout).eq_iff

end Project

end DesignAtlas
