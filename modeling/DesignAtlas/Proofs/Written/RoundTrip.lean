import DesignAtlas.Proofs.Design.Links
import DesignAtlas.Proofs.Text.Utf8
import DesignAtlas.Proofs.Written.Definitions
import DesignAtlas.Proofs.Written.Instances

/-!
# Reading written designs

A design whose modules have different names is written to source files in any order. The registry of
those files holds exactly the design. Nothing is lost, and nothing is made up by a name that starts
with another one, that is a keyword, or that stands for an instance or a port as well.

* `definedModules_parsed`: the modules read from written files.
* `holds_registryOf`: the registry of written files holds the design.
-/

namespace DesignAtlas.Written

/-- What is read from the bytes of a written file. -/
def File.parsed (f : File) : Entry × Parsed :=
  (f.entry, Parsed.ofBytes (Text.Utf8.encode (String.ofList f.text)))

/-- The modules of a written file as a registry holds them. -/
def File.registered (f : File) : List DesignAtlas.Module :=
  (definitionsOf 0 f.modules).map fun d =>
    { name := d.name, file := f.entry.name, path := f.entry.path, line := d.line, body := d.body }

/-- The registry of written files. -/
def registryOf (files : List File) : Registry :=
  Analysis.registryOf (Analysis.definedModules (files.map File.parsed))

/-- A registry holds exactly the design that is written to some source files. -/
structure Holds (r : Registry) (files : List File) (design : List Module) : Prop where
  /-- The modules are those of the files, with the lines and the bodies they are written with. -/
  modules : r.modules = files.flatMap File.registered
  /-- Their names are those of the design. -/
  names : (r.modules.map DesignAtlas.Module.name).Perm (design.map fun m => m.name.string)
  /-- Between two modules are recorded the instances of the one that are written in the other, in
  the order they are written. -/
  labels : ∀ m ∈ design, ∀ n ∈ design, ∀ parent ∈ r.ids, ∀ child ∈ r.ids,
    r.nameOf parent = m.name.string → r.nameOf child = n.name.string →
      r.labelsBetween parent child =
        (m.instances.filter fun i => i.child == n.name).map fun i => i.label.string
  /-- There are no other instantiations. -/
  known : ∀ i ∈ r.instantiations, i.parent ∈ r.ids ∧ i.child ∈ r.ids
  /-- The roots are the modules that no instance in the design is an instance of. -/
  roots : ∀ id, id ∈ r.roots ↔
    id ∈ r.ids ∧ ∀ m ∈ design, ∀ i ∈ m.instances, i.child.string ≠ r.nameOf id

/-! ### What is read from written files -/

theorem definitions_parsed (f : File) : f.parsed.2.definitions = definitionsOf 0 f.modules := by
  rw [File.parsed, Parsed.ofBytes, Text.Utf8.decodeLossy_encode]
  exact definitions_text f

/-- The modules read from written files are those of the files. -/
theorem definedModules_parsed (files : List File) :
    Analysis.definedModules (files.map File.parsed) = files.flatMap File.registered := by
  rw [Analysis.definedModules, List.flatMap_map]
  refine List.flatMap_congr fun f _ => ?_
  rw [definitions_parsed, File.registered]
  rfl

theorem map_name_definitionsOf (line : Nat) (modules : List Module) :
    (definitionsOf line modules).map Source.Definition.name =
      modules.map fun m => m.name.string := by
  induction modules generalizing line with
  | nil => rfl
  | cons m modules ih => rw [definitionsOf, List.map_cons, List.map_cons, ih]

theorem exists_of_mem_definitionsOf {line : Nat} {modules : List Module} {d : Source.Definition}
    (hd : d ∈ definitionsOf line modules) :
    ∃ m ∈ modules, d.name = m.name.string ∧ d.body = String.ofList m.body := by
  induction modules generalizing line with
  | nil => simp [definitionsOf] at hd
  | cons m modules ih =>
    rcases List.mem_cons.1 hd with rfl | hd
    · exact ⟨m, by simp, rfl, rfl⟩
    · obtain ⟨n, hn, hname, hbody⟩ := ih hd
      exact ⟨n, by simp [hn], hname, hbody⟩

theorem map_name_registered (files : List File) :
    (files.flatMap File.registered).map DesignAtlas.Module.name =
      (files.flatMap File.modules).map fun m => m.name.string := by
  rw [List.map_flatMap, List.map_flatMap]
  refine List.flatMap_congr fun f _ => ?_
  rw [← map_name_definitionsOf 0, File.registered, List.map_map]
  rfl

/-! ### The registry of written files -/

variable {files : List File} {design : List Module}

/-- The registry of written files before it is linked. -/
def unlinked (files : List File) : Registry :=
  ⟨files.flatMap File.registered, []⟩

/-- The names in the files are those of the design. -/
theorem map_name_perm (hfiles : (files.flatMap File.modules).Perm design) :
    ((files.flatMap File.registered).map DesignAtlas.Module.name).Perm
      (design.map fun m => m.name.string) := by
  rw [map_name_registered]
  exact hfiles.map _

/-- The modules of the files are registered one behind the other. -/
theorem registryOf_eq_link (hdesign : (design.map Module.name).Nodup)
    (hfiles : (files.flatMap File.modules).Perm design) :
    registryOf files = (unlinked files).link := by
  -- different names are different texts
  have hstrings : (design.map fun m => m.name.string) =
      (design.map Module.name).map Name.string := by
    rw [List.map_map]
    rfl
  have hnodup : ((files.flatMap File.registered).map DesignAtlas.Module.name).Nodup := by
    rw [(map_name_perm hfiles).nodup_iff, hstrings]
    exact hdesign.map fun m n => Name.string_inj.1
  rw [registryOf, Analysis.registryOf, definedModules_parsed, Registry.foldl_register hnodup]
  rfl

/-- Every module of the registry is one of the design. -/
theorem exists_of_mem_ids (hfiles : (files.flatMap File.modules).Perm design) {id : ModuleId}
    (hid : id ∈ (unlinked files).ids) :
    ∃ m ∈ design, (unlinked files).nameOf id = m.name.string ∧
      ∃ d, (unlinked files).get? id = some d ∧ d.body = String.ofList m.body := by
  obtain ⟨d, hd⟩ := Registry.mem_ids_iff_get?.1 hid
  obtain ⟨f, hf, hregistered⟩ := List.mem_flatMap.1 (List.mem_of_getElem? hd)
  obtain ⟨source, hsource, rfl⟩ := List.mem_map.1 hregistered
  obtain ⟨m, hm, hname, hbody⟩ := exists_of_mem_definitionsOf hsource
  refine ⟨m, hfiles.mem_iff.1 (List.mem_flatMap.2 ⟨f, hf, hm⟩), ?_, _, hd, hbody⟩
  rw [Registry.nameOf_of_get? hd, hname]

/-- Every module of the design is in the registry. -/
theorem exists_id_of_mem (hfiles : (files.flatMap File.modules).Perm design) {m : Module}
    (hm : m ∈ design) :
    ∃ id ∈ (unlinked files).ids, (unlinked files).nameOf id = m.name.string := by
  have hname : m.name.string ∈ (files.flatMap File.registered).map DesignAtlas.Module.name :=
    (map_name_perm hfiles).mem_iff.2 (List.mem_map.2 ⟨m, hm, rfl⟩)
  obtain ⟨d, hd, hdName⟩ := List.mem_map.1 hname
  obtain ⟨id, hid⟩ := List.mem_iff_getElem?.1 hd
  have hget : (unlinked files).get? id = some d := hid
  exact ⟨id, Registry.mem_ids_iff_get?.2 ⟨d, hget⟩, (Registry.nameOf_of_get? hget).trans hdName⟩

/-- Between two modules are recorded the instances of the one that are written in the other. -/
theorem labelsBetween_unlinked (hdesign : (design.map Module.name).Nodup)
    (hfiles : (files.flatMap File.modules).Perm design) {m n : Module} (hm : m ∈ design)
    {parent child : ModuleId} (hparent : parent ∈ (unlinked files).ids)
    (hchild : child ∈ (unlinked files).ids)
    (hparentName : (unlinked files).nameOf parent = m.name.string)
    (hchildName : (unlinked files).nameOf child = n.name.string) :
    (unlinked files).link.labelsBetween parent child =
      (m.instances.filter fun i => i.child == n.name).map fun i => i.label.string := by
  obtain ⟨m', hm', hname, p, hp, hpBody⟩ := exists_of_mem_ids hfiles hparent
  obtain ⟨c, hc⟩ := Registry.mem_ids_iff_get?.1 hchild
  -- the names of the design tell its modules apart
  obtain rfl : m' = m := List.inj_on_of_nodup_map hdesign hm' hm
    (Name.string_inj.1 (hname.symm.trans hparentName))
  rw [Registry.labelsBetween_link rfl hp hc, hpBody, ← Registry.nameOf_of_get? hc, hchildName,
    instanceNames_body]

/-- A module of the registry is a root if no instance in the design is an instance of it. -/
theorem mem_roots_unlinked_iff (hdesign : (design.map Module.name).Nodup)
    (hfiles : (files.flatMap File.modules).Perm design) {id : ModuleId} :
    id ∈ (unlinked files).link.roots ↔ id ∈ (unlinked files).ids ∧
      ∀ m ∈ design, ∀ i ∈ m.instances, i.child.string ≠ (unlinked files).nameOf id := by
  rw [Registry.mem_roots_iff]
  refine and_congr_right fun hid => ?_
  obtain ⟨n, hn, hname, -⟩ := exists_of_mem_ids hfiles hid
  rw [hname]
  constructor
  · intro hfree m hm i hi hchild
    -- the module that holds the instance is registered, and linking finds the instance in it
    obtain ⟨parent, hparent, hparentName⟩ := exists_id_of_mem hfiles hm
    have hlabels := labelsBetween_unlinked hdesign hfiles hm hparent hid hparentName hname
    rw [Registry.unreferenced_iff.1 hfree parent, eq_comm, List.map_eq_nil_iff,
      List.filter_eq_nil_iff] at hlabels
    exact hlabels i hi (by simpa using Name.string_inj.1 hchild)
  · intro hnone i hi hchild
    have hparent := (Registry.ids_of_mem_instantiations_link rfl hi).1
    obtain ⟨m, hm, hparentName, -⟩ := exists_of_mem_ids hfiles hparent
    have hlabel : i.label ∈ (unlinked files).link.labelsBetween i.parent id :=
      Registry.mem_labelsBetween_iff.2 (hchild ▸ hi)
    rw [labelsBetween_unlinked hdesign hfiles hm hparent hid hparentName hname] at hlabel
    -- the label is that of a written instance
    obtain ⟨written, hwritten, -⟩ := List.mem_map.1 hlabel
    obtain ⟨hmem, heq⟩ := List.mem_filter.1 hwritten
    exact hnone m hm written hmem (Name.string_inj.2 (by simpa using heq))

/-- The registry of a design that is written to source files in any way holds the design. -/
theorem holds_registryOf (hdesign : (design.map Module.name).Nodup)
    (hfiles : (files.flatMap File.modules).Perm design) :
    Holds (registryOf files) files design := by
  rw [registryOf_eq_link hdesign hfiles]
  have hknown : ∀ i ∈ (unlinked files).link.instantiations,
      i.parent ∈ (unlinked files).ids ∧ i.child ∈ (unlinked files).ids :=
    fun i hi => Registry.ids_of_mem_instantiations_link rfl hi
  refine
    { modules := rfl
      names := map_name_perm hfiles
      labels := ?_
      known := hknown
      roots := fun id => mem_roots_unlinked_iff hdesign hfiles }
  intro m hm n _ parent hparent child hchild hparentName hchildName
  exact labelsBetween_unlinked hdesign hfiles hm hparent hchild hparentName hchildName

/-- Two files with a cycle of modules, of which one starts with the name of the other and one is
named like a keyword. -/
def cycleFiles : List File :=
  let top : Name := ⟨"top".toList, by decide, by decide⟩
  let short : Name := ⟨"to".toList, by decide, by decide⟩
  let keyword : Name := ⟨"module".toList, by decide, by decide⟩
  let absent : Name := ⟨"absent".toList, by decide, by decide⟩
  [⟨⟨"b.v", ⟨"b.v"⟩, false⟩,
      [⟨short, [⟨keyword, short, [short, keyword]⟩, ⟨short, top, []⟩]⟩,
        ⟨top, [⟨short, keyword, [top]⟩]⟩]⟩,
    ⟨⟨"a.v", ⟨"a.v"⟩, false⟩, [⟨keyword, [⟨absent, absent, []⟩, ⟨short, absent, [absent]⟩]⟩]⟩]

/-- The registry of the two files holds their modules in whatever order the design lists them. -/
theorem holds_registryOf_cycleFiles :
    Holds (registryOf cycleFiles) cycleFiles (cycleFiles.flatMap File.modules).reverse :=
  holds_registryOf (by decide) (List.reverse_perm _).symm

end DesignAtlas.Written
