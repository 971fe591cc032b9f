import DesignAtlas.Proofs.Design.LinkOrder
import DesignAtlas.Proofs.Design.Registering
import Mathlib.Data.List.Sort

/-!
# The order of registrations

The order in which the modules of a design are registered decides their ids, and with the ids the
order of the links and the way that a walk over the files takes. What is looked up by the keys of
modules does not depend on it. The links between two modules are read off one body and one name.
A compile set is the closure of what its files need, and in which order a file's needs are found
does not matter for that.

* `Counterparts`: two ids stand for one key.
* `SameDesign`: two registries differ in the numbers of their modules only.
* `mem_neededBy_link_iff`: what a file of a linked registry needs.
* `map_components_compileSet_eq`: files that need the same ones have the same compile sets.
* `sameDesign_registryOf`: the order of registrations does not matter.
-/

namespace DesignAtlas

/-- The components of one path stand before those of another one in the order of paths. -/
def Path.Before (a b : List Component) : Prop :=
  List.compareLex Component.compare a b = .lt

theorem Path.Before.not_before {a b : List Component} (h : Before a b) : ¬Before b a :=
  Std.OrientedCmp.not_lt_of_lt h

instance : Std.Irrefl Path.Before where
  irrefl _ h := h.not_before h

instance : Std.Antisymm Path.Before where
  antisymm _ _ h h' := absurd h' h.not_before

namespace Registry

/-- Two ids stand for modules with the same key. -/
def Counterparts (r r' : Registry) (id id' : ModuleId) : Prop :=
  ∃ m m', r.get? id = some m ∧ r'.get? id' = some m' ∧ m.SameKey m'

/-- Two registries hold the same design, and differ in the numbers of the modules only. -/
structure SameDesign (r r' : Registry) : Prop where
  /-- Every module of the one has one counterpart in the other. -/
  forth : ∀ id ∈ r.ids, ∃! id', r.Counterparts r' id id'
  /-- Every module of the other has one counterpart in the one. -/
  back : ∀ id' ∈ r'.ids, ∃! id, r.Counterparts r' id id'
  /-- Between two modules stand the same instance names as between their counterparts. -/
  labels : ∀ parent parent' child child', r.Counterparts r' parent parent' →
    r.Counterparts r' child child' →
      r.labelsBetween parent child = r'.labelsBetween parent' child'
  /-- The roots are counterparts of roots. -/
  roots : ∀ id id', r.Counterparts r' id id' → (id ∈ r.roots ↔ id' ∈ r'.roots)
  /-- A module has the same files to compile as its counterpart. -/
  compileSet : ∀ id id', r.Counterparts r' id id' →
    (r.compileSet id).map Path.components = (r'.compileSet id').map Path.components

variable {r r' : Registry} {id id' : ModuleId} {m m' : Module} {file path : Path}

/-! ### What linking says about names and files -/

/-- What holds at every id holds of every module, whatever its id is. -/
theorem forall_get?_iff {P : Module → Prop} :
    (∀ id m, r.get? id = some m → P m) ↔ ∀ m ∈ r.modules, P m := by
  constructor
  · intro h m hm
    obtain ⟨id, hid⟩ := List.mem_iff_getElem?.1 hm
    exact h id m hid
  · exact fun h id m hm => h m (List.mem_of_getElem? hm)

/-- A file needs the files that define what the bodies of its modules instantiate. -/
theorem mem_neededBy_link_iff (hr : r.instantiations = []) :
    path ∈ r.link.neededBy file ↔ ∃ parent ∈ r.modules, ∃ child ∈ r.modules,
      parent.path.Same file ∧ child.path = path ∧
        Source.instanceNames parent.body child.name ≠ [] := by
  rw [mem_neededBy_iff]
  constructor
  · -- a recorded link has an instance name, and the parent's body holds it
    rintro ⟨i, hi, parent, child, hparent, hsame, hchild, hpath⟩
    refine ⟨parent, List.mem_of_getElem? hparent, child, List.mem_of_getElem? hchild, hsame, hpath,
      List.ne_nil_of_mem (a := i.label) ?_⟩
    rw [← labelsBetween_link hr hparent hchild]
    exact mem_labelsBetween_iff.2 hi
  · rintro ⟨parent, hparent, child, hchild, hsame, hpath, hlabels⟩
    obtain ⟨parentId, hparent⟩ := List.mem_iff_getElem?.1 hparent
    obtain ⟨childId, hchild⟩ := List.mem_iff_getElem?.1 hchild
    obtain ⟨label, hlabel⟩ := List.exists_mem_of_ne_nil _ hlabels
    rw [← labelsBetween_link hr hparent hchild] at hlabel
    exact ⟨_, mem_labelsBetween_iff.1 hlabel, parent, child, hparent, hsame, hchild, hpath⟩

/-! ### Compile sets of files that need the same ones -/

/-- If every file needs in the one registry what it needs in the other one, the compile set of a
module in the one is part of that in the other. -/
theorem map_components_compileSet_subset (hm : r.get? id = some m) (hm' : r'.get? id' = some m')
    (hown : m.path.Same m'.path) (hneeds : ∀ file, r.neededBy file ⊆ r'.neededBy file) :
    (r.compileSet id).map Path.components ⊆ (r'.compileSet id').map Path.components := by
  intro components hcomponents
  obtain ⟨p, hp, rfl⟩ := List.mem_map.1 hcomponents
  rw [components_mem_map_iff]
  -- the compile set in the other registry is closed in this one
  refine mem_of_mem_takeFiles (S := fun q => holdsPath (r'.compileSet id') q = true)
    (fun f hf q hq => ?_) ?_ p ((mem_compileSet_iff hm).1 hp)
  · exact holdsPath_compileSet_of_neededBy hm' hf (hneeds f hq)
  · intro q hq
    rw [List.mem_singleton.1 hq]
    exact (holdsPath_congr rfl hown).trans (isFileClosed_compileSet hm').own

/-- What stands strictly in order is determined by what it holds, so compile sets with the same
files are the same. -/
theorem map_components_compileSet_eq (hm : r.get? id = some m) (hm' : r'.get? id' = some m')
    (hown : m.path.Same m'.path)
    (hneeds : ∀ file path, path ∈ r.neededBy file ↔ path ∈ r'.neededBy file) :
    (r.compileSet id).map Path.components = (r'.compileSet id').map Path.components := by
  have hsorted : ∀ (r : Registry) id,
      ((r.compileSet id).map Path.components).Pairwise Path.Before := fun r id =>
    List.pairwise_map.2 ((pairwise_compileSet r id).imp And.left)
  exact List.Subset.antisymm_of_pairwise (hsorted r id) (hsorted r' id')
    (map_components_compileSet_subset hm hm' hown fun file path => (hneeds file path).1)
    (map_components_compileSet_subset hm' hm hown.symm fun file path => (hneeds file path).2)

/-! ### The same modules in another order -/

/-- Every module has one counterpart among the same modules in another order. -/
theorem existsUnique_counterparts (hmem : m ∈ r'.modules)
    (hkeys : (r'.modules.map Module.key).Nodup) (hm : r.get? id = some m) :
    ∃! id', r.Counterparts r' id id' := by
  obtain ⟨id', hid'⟩ := List.mem_iff_getElem?.1 hmem
  refine ⟨id', ⟨m, m, hm, hid', rfl, rfl⟩, ?_⟩
  -- another counterpart would share the module's key
  rintro other ⟨n, m', hn, hother, hsame⟩
  obtain rfl := Option.some_inj.1 (hm.symm.trans hn)
  exact eq_of_key_eq hkeys hother hid' (Module.sameKey_iff.1 hsame).symm

theorem Counterparts.symm (h : r.Counterparts r' id id') : r'.Counterparts r id' id := by
  obtain ⟨m, m', hm, hm', hname, hpath⟩ := h
  exact ⟨m', m, hm', hm, hname.symm, hpath.symm⟩

/-- Counterparts among the same modules are one module. -/
theorem Counterparts.exists_module (h : r.Counterparts r' id id')
    (hperm : r.modules.Perm r'.modules) (hkeys : (r.modules.map Module.key).Nodup) :
    ∃ m, r.get? id = some m ∧ r'.get? id' = some m := by
  obtain ⟨m, m', hm, hm', hsame⟩ := h
  have hmem : m' ∈ r.modules := hperm.mem_iff.2 (List.mem_of_getElem? hm')
  obtain rfl := List.inj_on_of_nodup_map hkeys (List.mem_of_getElem? hm) hmem
    (Module.sameKey_iff.1 hsame)
  exact ⟨m, hm, hm'⟩

/-- Linked registries of the same modules hold the same design, whatever the order of the
modules. -/
theorem sameDesign_link (hr : r.instantiations = []) (hr' : r'.instantiations = [])
    (hperm : r.modules.Perm r'.modules) (hkeys : (r.modules.map Module.key).Nodup) :
    r.link.SameDesign r'.link := by
  have hkeys' : (r'.modules.map Module.key).Nodup := (hperm.map _).nodup_iff.1 hkeys
  have hmodule : ∀ {id id'}, r.link.Counterparts r'.link id id' →
      ∃ m, r.get? id = some m ∧ r'.get? id' = some m := fun h => h.exists_module hperm hkeys
  refine
    { forth := fun id hid => ?_
      back := fun id' hid' => ?_
      labels := fun parent parent' child child' hp hc => ?_
      roots := fun id id' h => ?_
      compileSet := fun id id' h => ?_ }
  · obtain ⟨m, hm⟩ := mem_ids_iff_get?.1 hid
    exact existsUnique_counterparts (hperm.mem_iff.1 (List.mem_of_getElem? hm)) hkeys' hm
  · obtain ⟨m, hm⟩ := mem_ids_iff_get?.1 hid'
    obtain ⟨id, hid, hunique⟩ :=
      existsUnique_counterparts (hperm.mem_iff.2 (List.mem_of_getElem? hm)) hkeys hm
    exact ⟨id, hid.symm, fun other hother => hunique other hother.symm⟩
  · -- both registries read the labels off the parent's body and the child's name
    obtain ⟨m, hm, hm'⟩ := hmodule hp
    obtain ⟨n, hn, hn'⟩ := hmodule hc
    rw [labelsBetween_link hr hm hn, labelsBetween_link hr' hm' hn']
  · obtain ⟨m, hm, hm'⟩ := hmodule h
    rw [mem_roots_link_iff hr hm, mem_roots_link_iff hr' hm', forall_get?_iff, forall_get?_iff]
    simp only [hperm.mem_iff]
  · obtain ⟨m, hm, hm'⟩ := hmodule h
    -- what a file needs is told by the modules without their ids
    have hneeds : ∀ file path, path ∈ r.link.neededBy file ↔ path ∈ r'.link.neededBy file := by
      intro file path
      simp only [mem_neededBy_link_iff hr, mem_neededBy_link_iff hr', hperm.mem_iff]
    exact map_components_compileSet_eq hm hm' (Path.Same.refl _) hneeds

end Registry

namespace Analysis

variable {ms ms' : List Module}

/-- If no two modules share a key, the order in which they are registered does not matter: once
linked, the registries hold the same design. -/
theorem sameDesign_registryOf (hkeys : (ms.map Module.key).Nodup) (hperm : ms.Perm ms') :
    (registryOf ms).SameDesign (registryOf ms') := by
  have hkeys' : (ms'.map Module.key).Nodup := (hperm.map _).nodup_iff.1 hkeys
  have hmodules : ∀ {ms : List Module}, (ms.map Module.key).Nodup →
      (ms.foldl (fun r m => (r.register m).1) Registry.empty).modules = ms := fun h => by
    rw [Registry.modules_foldl_register, latest_of_nodup h]
  have hnone := fun ms => Registry.instantiations_foldl_register ms Registry.empty
  refine Registry.sameDesign_link (hnone ms) (hnone ms') ?_ ?_
  · rwa [hmodules hkeys, hmodules hkeys']
  · rwa [hmodules hkeys]

/-- A name that two files define, and a module that instantiates it and is instantiated by one of
its definitions. -/
def sharedName : List Module :=
  [⟨"top", "a.v", ⟨"p/a.v"⟩, 0, " n u(); n v();"⟩, ⟨"n", "b.v", ⟨"p/b.v"⟩, 0, " top w();"⟩,
    ⟨"n", "c.v", ⟨"p/c.v"⟩, 0, ""⟩]

/-- From the last module to the first one the ids are others, and the instances are the same. -/
theorem sameDesign_registryOf_reverse :
    (registryOf sharedName).SameDesign (registryOf sharedName.reverse) ∧
      (registryOf sharedName.reverse).labelsBetween 2 0 = ["u", "v"] := by
  have hsame := sameDesign_registryOf (by decide +kernel) (List.reverse_perm sharedName).symm
  refine ⟨hsame, ?_⟩
  have hlabels := hsame.labels 0 2 2 0 ⟨_, _, rfl, rfl, rfl, rfl⟩ ⟨_, _, rfl, rfl, rfl, rfl⟩
  rw [← hlabels]
  decide +kernel

end Analysis

end DesignAtlas
