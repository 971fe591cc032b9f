import DesignAtlas.Proofs.Design.HierarchyShape
import DesignAtlas.Proofs.Workspace.Coherence
import DesignAtlas.Report.Document

/-!
# References within a document

The parts of a document refer to each other: children and roots by the ids of modules, modules and
included files by the names of source files. Whoever has nothing but the JSON value finds
everything that it refers to in the value itself.

* `References.ofValue?`: the references of a document, read from its value.
* `References.IsClosed`: all references lead somewhere. `References.TellsFiles`: modules and files
  are told apart by their names.
* `ofValue?_toValue`: what is read from the document of a project.
* `IsCoherent.isClosed_references`, `TellsFiles.references`: if the parts of a project fit together,
  so do its references.
* `isClosed_references_after`: so the references of a document are closed after any requests, and
  they tell the files apart if the directory was listed as it is.
* `not_tellsFiles_references_after`: names that are shown alike are not told apart.
-/

namespace DesignAtlas

open Json (Value)

/-! ### Reading values -/

namespace Json.Value

/-- Read a string. -/
def text? : Value → Option String
  | text s => some s
  | _ => none

/-- Read a number. -/
def number? : Value → Option Nat
  | number n => some n
  | _ => none

/-- Read every item of an array. -/
def items? {α : Type} (read : Value → Option α) : Value → Option (List α)
  | list items => items.mapM read
  | _ => none

/-- Read the field of a name in an object. -/
def field? {α : Type} (name : String) (read : Value → Option α) : Value → Option α
  | object fields => (fields.lookup name).bind read
  | _ => none

/-- If every item can be read, the array can be read. -/
theorem items?_list_map {α β : Type} (read : Value → Option β) (value : α → Value) (f : α → β)
    (h : ∀ a, read (value a) = some (f a)) (items : List α) :
    (list (items.map value)).items? read = some (items.map f) := by
  rw [items?, List.mapM_map]
  induction items with
  | nil => rfl
  | cons a items ih =>
    rw [List.mapM_cons, ih, Function.comp_apply, h a]
    rfl

theorem items?_texts (items : List String) : (texts items).items? text? = some items := by
  rw [texts, items?_list_map text? text id (fun _ => rfl), List.map_id]

theorem items?_numbers (items : List Nat) : (numbers items).items? number? = some items := by
  rw [numbers, items?_list_map number? number id (fun _ => rfl), List.map_id]

end Json.Value

/-! ### The references of a document -/

/-- A row of the table of modules. -/
structure ModuleRow where
  /-- The id of the module. -/
  id : ModuleId
  /-- The name of the module. -/
  name : String
  /-- The name of the file that defines it. -/
  file : String
  /-- The ids of the modules that it instantiates. -/
  children : List ModuleId
  deriving DecidableEq, Repr

/-- The parts of a document that refer to each other. -/
structure References where
  /-- The names of the source files. -/
  sources : List String
  /-- The table of modules. -/
  modules : List ModuleRow
  /-- The ids of the modules that no module instantiates. -/
  roots : List ModuleId
  /-- The names of the included files. -/
  includes : List String
  /-- The source files that could not be read. -/
  skipped : List Path
  deriving DecidableEq, Repr

/-- Read a row of the table of modules. -/
def ModuleRow.ofValue? (value : Value) : Option ModuleRow := do
  let id ← value.field? "id" Value.number?
  let name ← value.field? "name" Value.text?
  let file ← value.field? "file" Value.text?
  let children ← value.field? "children" (Value.items? (Value.field? "module" Value.number?))
  return ⟨id, name, file, children⟩

namespace References

/-- Read the references of a document from its value. -/
def ofValue? (value : Value) : Option References := do
  let sources ← value.field? "sources" (Value.items? Value.text?)
  let modules ← value.field? "modules" (Value.items? ModuleRow.ofValue?)
  let roots ← value.field? "roots" (Value.items? Value.number?)
  let includes ← value.field? "includes" (Value.items? (Value.field? "name" Value.text?))
  let skipped ← value.field? "skipped" (Value.items? Value.text?)
  return ⟨sources, modules, roots, includes, skipped.map Path.mk⟩

/-- All references lead somewhere, and no included file is listed twice. -/
structure IsClosed (references : References) : Prop where
  /-- The id of a module is its place in the table. -/
  numbered : ∀ (k : Nat) (row : ModuleRow), references.modules[k]? = some row → row.id = k
  /-- The children of a module are in the table. -/
  child_lt : ∀ row ∈ references.modules, ∀ id ∈ row.children, id < references.modules.length
  /-- The roots are in the table. -/
  root_lt : ∀ id ∈ references.roots, id < references.modules.length
  /-- The roots stand in increasing order. -/
  roots_sorted : references.roots.Pairwise fun id id' => id < id'
  /-- The roots are the modules that are no children. -/
  mem_roots_iff : ∀ id < references.modules.length,
    (id ∈ references.roots ↔ ∀ row ∈ references.modules, id ∉ row.children)
  /-- The file of a module is a source file. -/
  file_mem : ∀ row ∈ references.modules, row.file ∈ references.sources
  /-- An included file is a source file. -/
  include_mem : ∀ name ∈ references.includes, name ∈ references.sources
  /-- No file is listed twice among the included ones. -/
  includes_nodup : references.includes.Nodup

/-- Modules and files are told apart by their names. -/
structure TellsFiles (references : References) : Prop where
  /-- No two modules have the same name and the same file. -/
  distinct : references.modules.Pairwise fun row row' =>
    ¬(row.name = row'.name ∧ row.file = row'.file)
  /-- The file of a module is not skipped. -/
  not_skipped : ∀ row ∈ references.modules, ∀ path ∈ references.skipped,
    path.fileName? ≠ some row.file

end References

/-! ### What is read from the document of a project -/

namespace Registry

/-- The row of a module in the table. -/
def row (r : Registry) (id : ModuleId) (m : Module) : ModuleRow :=
  ⟨id, m.name, m.file, (r.submodules id).map Prod.snd⟩

/-- The rows of the table. -/
def rows (r : Registry) : List ModuleRow :=
  r.modules.zipIdx.map fun entry => r.row entry.2 entry.1

theorem ofValue?_moduleValue (r : Registry) (id : ModuleId) (m : Module) :
    ModuleRow.ofValue? (r.moduleValue id m) = some (r.row id m) := by
  have hchildren : (r.moduleValue id m).field? "children"
      (Value.items? (Value.field? "module" Value.number?)) =
      some ((r.submodules id).map Prod.snd) := by
    refine Value.items?_list_map (Value.field? "module" Value.number?) _ Prod.snd ?_ _
    intro instantiated
    rfl
  rw [ModuleRow.ofValue?, hchildren]
  rfl

theorem items?_moduleTable (r : Registry) :
    r.moduleTable.items? ModuleRow.ofValue? = some r.rows := by
  refine Value.items?_list_map ModuleRow.ofValue? _ _ ?_ r.modules.zipIdx
  intro entry
  exact r.ofValue?_moduleValue entry.2 entry.1

variable {r : Registry} {id : ModuleId}

@[simp]
theorem length_rows (r : Registry) : r.rows.length = r.modules.length := by
  rw [rows, List.length_map, List.length_zipIdx]

theorem getElem?_rows (r : Registry) (k : Nat) : r.rows[k]? = (r.get? k).map (r.row k) := by
  rw [rows, List.getElem?_map, List.getElem?_zipIdx, Nat.zero_add, Option.map_map]
  rfl

theorem exists_getElem_rows {k : Nat} (hk : k < r.rows.length) :
    ∃ m, r.get? k = some m ∧ r.rows[k] = r.row k m := by
  have hrow := List.getElem?_eq_getElem hk
  rw [getElem?_rows] at hrow
  obtain ⟨m, hm, hrow⟩ := Option.map_eq_some_iff.1 hrow
  exact ⟨m, hm, hrow.symm⟩

theorem mem_rows_iff {row : ModuleRow} :
    row ∈ r.rows ↔ ∃ id m, r.get? id = some m ∧ r.row id m = row := by
  simp only [List.mem_iff_getElem?, getElem?_rows, Option.map_eq_some_iff]

theorem mem_children_row {child : ModuleId} {m : Module} :
    child ∈ (r.row id m).children ↔ r.Instantiates id child := by
  rw [instantiates_iff]
  show child ∈ (r.submodules id).map Prod.snd ↔ _
  rw [List.mem_map, Prod.exists]
  simp only [exists_eq_right]

/-- A module is unreferenced if it is nobody's child. -/
theorem unreferenced_iff_rows (hr : r.IsClosed) :
    r.Unreferenced id ↔ ∀ row ∈ r.rows, id ∉ row.children := by
  constructor
  · intro h row hrow hid
    obtain ⟨parent, m, -, rfl⟩ := mem_rows_iff.1 hrow
    obtain ⟨i, hi, -, hchild⟩ := mem_children_row.1 hid
    exact h i hi hchild
  · rintro h i hi rfl
    -- whoever instantiates the module has a row
    obtain ⟨m, hm⟩ := mem_ids_iff_get?.1 (hr i hi).1
    exact h _ (mem_rows_iff.2 ⟨_, m, hm, rfl⟩) (mem_children_row.2 ⟨i, hi, rfl, rfl⟩)

end Registry

namespace Project

/-- The parts of a project that refer to each other. -/
def references (p : Project) : References :=
  ⟨p.sources, p.registry.rows, p.roots, p.includes.map IncludedFile.name, p.skipped⟩

/-- The references of a project can be read from its document. -/
theorem ofValue?_toValue (p : Project) : References.ofValue? p.toValue = some p.references := by
  have hsources : p.toValue.field? "sources" (Value.items? Value.text?) = some p.sources :=
    Value.items?_texts _
  have hmodules : p.toValue.field? "modules" (Value.items? ModuleRow.ofValue?) =
      some p.registry.rows :=
    p.registry.items?_moduleTable
  have hroots : p.toValue.field? "roots" (Value.items? Value.number?) = some p.roots :=
    Value.items?_numbers _
  have hincludes : p.toValue.field? "includes" (Value.items? (Value.field? "name" Value.text?)) =
      some (p.includes.map IncludedFile.name) := by
    refine Value.items?_list_map (Value.field? "name" Value.text?) _ _ ?_ p.includes
    intro file
    rfl
  have hskipped : p.toValue.field? "skipped" (Value.items? Value.text?) =
      some (p.skipped.map Path.text) :=
    Value.items?_texts _
  have hpaths : (p.skipped.map Path.text).map Path.mk = p.skipped := by
    rw [List.map_map]
    exact List.map_id _
  rw [References.ofValue?, hsources, hmodules, hroots, hincludes, hskipped, references]
  exact congrArg (fun skipped => some (References.mk _ _ _ _ skipped)) hpaths

/-! ### Closed references -/

variable {p : Project} {root : Path} {requests : List Request}

/-- If the parts of a project fit together, its references are closed. -/
theorem IsCoherent.isClosed_references (h : p.IsCoherent) : p.references.IsClosed where
  numbered := by
    intro k row hrow
    have hrow : p.registry.rows[k]? = some row := hrow
    rw [Registry.getElem?_rows] at hrow
    obtain ⟨m, -, rfl⟩ := Option.map_eq_some_iff.1 hrow
    rfl
  child_lt := by
    intro row hrow id hid
    obtain ⟨parent, m, -, rfl⟩ := Registry.mem_rows_iff.1 hrow
    rw [references, Registry.length_rows, ← Registry.mem_ids]
    exact h.closed.child_mem_ids (Registry.mem_children_row.1 hid)
  root_lt := by
    intro id hid
    rw [references, Registry.length_rows, ← Registry.mem_ids]
    exact (Registry.mem_roots_iff.1 hid).1
  roots_sorted := Registry.pairwise_roots p.registry
  mem_roots_iff := by
    intro id hid
    rw [references, Registry.length_rows, ← Registry.mem_ids] at hid
    show id ∈ p.registry.roots ↔ ∀ row ∈ p.registry.rows, id ∉ row.children
    rw [Registry.mem_roots_iff, Registry.unreferenced_iff_rows h.closed]
    exact and_iff_right hid
  file_mem := by
    intro row hrow
    obtain ⟨id, m, hm, rfl⟩ := Registry.mem_rows_iff.1 hrow
    exact h.file_mem m (List.mem_of_getElem? hm)
  include_mem := h.include_mem
  includes_nodup := h.includes_nodup

/-- If the files of a project are told apart, so are those of its references. -/
theorem TellsFiles.references (h : p.TellsFiles) : p.references.TellsFiles where
  distinct := by
    show p.registry.rows.Pairwise _
    refine List.pairwise_iff_getElem.2 fun i j hi hj hlt hsame => ?_
    obtain ⟨m, hm, hrow⟩ := Registry.exists_getElem_rows hi
    obtain ⟨m', hm', hrow'⟩ := Registry.exists_getElem_rows hj
    rw [hrow, hrow'] at hsame
    exact Nat.ne_of_lt hlt (h.distinct i j m m' hm hm' hsame.1 hsame.2)
  not_skipped := by
    intro row hrow
    obtain ⟨id, m, hm, rfl⟩ := Registry.mem_rows_iff.1 hrow
    exact h.not_skipped m (List.mem_of_getElem? hm)

/-- After any requests the references that are read from the document of a project are those of its
parts, and they are closed. If the directory was listed as it is, they tell modules and files
apart. -/
theorem isClosed_references_after (root : Path) (requests : List Request) :
    let p := (ofRoot root).after requests
    References.ofValue? p.toValue = some p.references ∧ p.references.IsClosed ∧
      ((∀ storage schedule, Request.analyze storage schedule ∈ requests →
        storage.IsFaithfulAt root) → p.references.TellsFiles) := by
  intro p
  have hcoherent : p.IsCoherent := isCoherent_after root requests
  refine ⟨ofValue?_toValue p, hcoherent.isClosed_references, fun hstorages => ?_⟩
  have htells : p.TellsFiles := tellsFiles_after hstorages
  exact htells.references

/-- A storage on which no directory can be listed. -/
def nothingListed : Storage where
  list := fun _ => .error .denied
  read := fun _ => .error .denied
  isFile := fun _ => false

theorem isFaithfulAt_nothingListed (root : Path) : nothingListed.IsFaithfulAt root :=
  nofun

theorem isFaithfulAt_fourFiles : (fourFiles (.ok [])).IsFaithfulAt ⟨"p"⟩ := by
  rintro entries ⟨⟩
  exact { sorted := by decide +kernel
          named := by decide +kernel
          below := by decide +kernel }

/-- A failed analysis is forgotten, and after another one the document refers to its files. -/
theorem isClosed_references_after_fourFiles :
    let storage := fourFiles (.ok [])
    let requests : List Request := [.analyze nothingListed .inOrder, .clear,
      .analyze storage .backwards, .expand storage [Listing.includesName]]
    let references : References := ⟨["a.v", "b.v", "c.v", "d.v"],
      [⟨0, "m", "a.v", [1]⟩, ⟨1, "n", "c.v", []⟩], [0], ["b.v"], [⟨"p/d.v"⟩]⟩
    References.ofValue? ((ofRoot ⟨"p"⟩).after requests).toValue = some references ∧
      references.IsClosed ∧ references.TellsFiles := by
  intro storage requests references
  have hstorages : ∀ analyzed schedule, Request.analyze analyzed schedule ∈ requests →
      analyzed.IsFaithfulAt ⟨"p"⟩ := by
    intro analyzed schedule hmem
    simp only [requests, List.mem_cons, Request.analyze.injEq, reduceCtorEq, List.not_mem_nil,
      false_or, or_false] at hmem
    rcases hmem with ⟨rfl, -⟩ | ⟨rfl, -⟩
    · exact isFaithfulAt_nothingListed ⟨"p"⟩
    · exact isFaithfulAt_fourFiles
  obtain ⟨hread, hclosed, htells⟩ := isClosed_references_after ⟨"p"⟩ requests
  have hreferences : ((ofRoot ⟨"p"⟩).after requests).references = references := by
    decide +kernel
  rw [hreferences] at hread hclosed htells
  exact ⟨hread, hclosed, htells hstorages⟩

/-- A directory with three files whose names are shown alike. Only the first name is the text that
is shown. The names of the others are no text, and what stands in their paths here stands for
bytes that are none. The first file cannot be read. -/
def shownAlike : Storage where
  list := fun _ => .ok [⟨"a\uFFFD.v", ⟨"p/a\uFFFD.v"⟩, false⟩, ⟨"a\uFFFD.v", ⟨"p/a\xfe.v"⟩, false⟩,
    ⟨"a\uFFFD.v", ⟨"p/a\xff.v"⟩, false⟩]
  read := fun path =>
    if path.text = "p/a\uFFFD.v" then .error .denied
    else .ok (Text.Utf8.encode "module m; endmodule")
  isFile := fun _ => true

/-- Two modules have one name and one file then, and the file is the one that is skipped. -/
theorem not_tellsFiles_references_after :
    let references := ((ofRoot ⟨"p"⟩).after [.analyze shownAlike .inOrder]).references
    references.modules = [⟨0, "m", "a\uFFFD.v", []⟩, ⟨1, "m", "a\uFFFD.v", []⟩] ∧
      references.skipped = [⟨"p/a\uFFFD.v"⟩] ∧
      (¬references.modules.Pairwise fun row row' =>
        ¬(row.name = row'.name ∧ row.file = row'.file)) ∧
      ¬∀ row ∈ references.modules, ∀ path ∈ references.skipped,
        path.fileName? ≠ some row.file := by
  decide +kernel

end Project

end DesignAtlas
