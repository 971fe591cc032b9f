import DesignAtlas.Design.CompileSet
import Mathlib.Data.List.Basic

/-!
# Compile sets are closures

The compile set of a module is the least set of files that holds the module's file and, with every
file, the files of everything that some module in it instantiates. The walk that collects the set
visits files that are still being walked from, so what it leaves out at one place has to be in the
set already or to be taken later. The invariant says this for every file that may still be taken.

* `holdsPath_congr`: lists of paths are looked up by components.
* `holdsPath_takeFiles`: a pending file that may be taken is in the set.
* `holdsPath_takeFiles_of_neededBy`: so is everything that a file of the set needs.
* `compileSet_isLeast`: the compile set is the closure, in strictly increasing order of paths.
-/

namespace DesignAtlas

namespace Path

instance : Std.TransCmp compare :=
  have components : Std.TransCmp (List.compareLex Component.compare) := inferInstance
  { eq_swap := components.eq_swap
    isLE_trans := components.isLE_trans }

theorem isLE_trans (p q s : Path) (h₁ : p.isLE q = true) (h₂ : q.isLE s = true) :
    p.isLE s = true :=
  Std.TransCmp.isLE_trans h₁ h₂

theorem isLE_total (p q : Path) : (p.isLE q || q.isLE p) = true := by
  by_cases h : p.isLE q = true
  · simp [h]
  · have hlt : q.compare p = .lt := Std.OrientedCmp.lt_of_not_isLE h
    simp [isLE, hlt]

/-- A path that stands before another one with other components stands strictly before it. -/
theorem compare_eq_lt_of_isLE {p q : Path} (hle : p.isLE q = true) (hne : ¬p.Same q) :
    p.compare q = .lt := by
  rw [isLE, Ordering.isLE_iff_eq_lt_or_eq_eq, compare_eq_eq_iff] at hle
  exact hle.resolve_right hne

end Path

namespace Registry

/-- A set of paths that holds the file of a module and, with every file, the files of everything
that a module defined in it instantiates. -/
structure IsFileClosed (r : Registry) (m : Module) (S : Path → Prop) : Prop where
  /-- The module's own file is in the set. -/
  own : S m.path
  /-- With a file in the set, what its modules instantiate is defined in the set. -/
  step : ∀ f, S f → ∀ i ∈ r.instantiations, ∀ parent child, r.get? i.parent = some parent →
    parent.path.Same f → r.get? i.child = some child → S child.path

variable {r : Registry} {untaken pending : List Path} {file path : Path}

theorem mem_submodules_iff {id child : ModuleId} {label : String} :
    (label, child) ∈ r.submodules id ↔ ⟨id, child, label⟩ ∈ r.instantiations := by
  simp only [submodules, List.mem_map, List.mem_filter, beq_iff_eq, Prod.mk.injEq]
  constructor
  · rintro ⟨i, ⟨hi, rfl⟩, rfl, rfl⟩
    exact hi
  · intro hi
    exact ⟨_, ⟨hi, rfl⟩, rfl, rfl⟩

/-- A file needs the files of everything that its modules instantiate. -/
theorem mem_neededBy_iff :
    path ∈ r.neededBy file ↔ ∃ i ∈ r.instantiations, ∃ parent child,
      r.get? i.parent = some parent ∧ parent.path.Same file ∧ r.get? i.child = some child ∧
        child.path = path := by
  simp only [neededBy, definedIn, List.mem_flatMap, List.mem_filterMap, mem_idsWhere,
    Option.map_eq_some_iff, decide_eq_true_eq, Prod.exists, mem_submodules_iff]
  constructor
  · rintro ⟨id, ⟨parent, hparent, hsame⟩, label, child, hi, m, hm, rfl⟩
    exact ⟨_, hi, parent, m, hparent, hsame, hm, rfl⟩
  · rintro ⟨i, hi, parent, m, hparent, hsame, hm, rfl⟩
    exact ⟨i.parent, ⟨parent, hparent, hsame⟩, i.label, i.child, hi, m, hm, rfl⟩

/-! ### Lists of paths up to their components -/

theorem holdsPath_iff {paths : List Path} :
    holdsPath paths path = true ↔ ∃ known ∈ paths, known.Same path := by
  simp [holdsPath]

/-- Whether a list holds a path is told by the components. -/
theorem holdsPath_eq_any {paths : List Path} :
    holdsPath paths path =
      (paths.map Path.components).any fun known => known = path.components := by
  rw [holdsPath, List.any_map]
  rfl

theorem holdsPath_congr {paths paths' : List Path}
    (hpaths : paths.map Path.components = paths'.map Path.components) (h : file.Same path) :
    holdsPath paths file = holdsPath paths' path := by
  rw [holdsPath_eq_any, holdsPath_eq_any, hpaths, show file.components = path.components from h]

theorem components_mem_map_iff {paths : List Path} :
    path.components ∈ paths.map Path.components ↔ holdsPath paths path = true := by
  rw [List.mem_map, holdsPath_iff]
  rfl

theorem map_components_withoutPath (paths : List Path) (path : Path) :
    (withoutPath paths path).map Path.components =
      (paths.map Path.components).filter (· ≠ path.components) := by
  rw [withoutPath, List.filter_map]
  rfl

/-- Without a path the list holds the others. -/
theorem holdsPath_withoutPath_iff {paths : List Path} {other : Path} :
    holdsPath (withoutPath paths path) other = true ↔
      holdsPath paths other = true ∧ ¬path.Same other := by
  simp only [holdsPath_iff, withoutPath, List.mem_filter, decide_eq_true_eq]
  constructor
  · rintro ⟨known, ⟨hknown, hne⟩, hsame⟩
    exact ⟨⟨known, hknown, hsame⟩, fun h => hne (hsame.trans h.symm)⟩
  · rintro ⟨⟨known, hknown, hsame⟩, hne⟩
    exact ⟨known, ⟨hknown, fun h => hne (h.symm.trans hsame)⟩, hsame⟩

/-! ### The walk -/

/-- The walk stays in every set that holds the pending files and what its files need. -/
theorem mem_of_mem_takeFiles {S : Path → Prop}
    (hneeded : ∀ f, S f → ∀ p ∈ r.neededBy f, S p) (hpending : ∀ p ∈ pending, S p) :
    ∀ p ∈ takeFiles r untaken pending, S p := by
  fun_induction takeFiles r untaken pending with
  | case1 => simp
  | case2 untaken file pending htake ih =>
    have hfile : S file := hpending file (by simp)
    intro p hp
    rcases List.mem_cons.1 hp with rfl | hp
    · exact hfile
    · -- what comes later is pending now or needed by the file
      refine ih (fun q hq => ?_) p hp
      rcases List.mem_append.1 hq with hq | hq
      · exact hneeded file hfile q hq
      · exact hpending q (by simp [hq])
  | case3 untaken file pending _ ih => exact ih fun q hq => hpending q (by simp [hq])

/-- The walk takes files only that may be taken. -/
theorem holdsPath_of_mem_takeFiles (h : path ∈ takeFiles r untaken pending) :
    holdsPath untaken path = true := by
  fun_induction takeFiles r untaken pending with
  | case1 => simp at h
  | case2 untaken file pending htake ih =>
    rcases List.mem_cons.1 h with rfl | h
    · exact htake
    · exact (holdsPath_withoutPath_iff.1 (ih h)).1
  | case3 untaken file pending _ ih => exact ih h

/-- The walk takes no file twice. -/
theorem pairwise_takeFiles : (takeFiles r untaken pending).Pairwise fun p q => ¬p.Same q := by
  fun_induction takeFiles r untaken pending with
  | case1 => exact .nil
  | case2 untaken file pending htake ih =>
    refine List.pairwise_cons.2 ⟨fun q hq => ?_, ih⟩
    exact (holdsPath_withoutPath_iff.1 (holdsPath_of_mem_takeFiles hq)).2
  | case3 untaken file pending _ ih => exact ih

/-- A pending file that may be taken is in the set. -/
theorem holdsPath_takeFiles (hpath : path ∈ pending) (huntaken : holdsPath untaken path = true) :
    holdsPath (takeFiles r untaken pending) path = true := by
  fun_induction takeFiles r untaken pending with
  | case1 => simp at hpath
  | case2 untaken file pending htake ih =>
    by_cases hsame : file.Same path
    · exact holdsPath_iff.2 ⟨file, by simp, hsame⟩
    · have hrest : path ∈ pending := by
        rcases List.mem_cons.1 hpath with rfl | hrest
        · exact absurd (Path.Same.refl _) hsame
        · exact hrest
      obtain ⟨known, hknown, hknownSame⟩ := holdsPath_iff.1
        (ih (by simp [hrest]) (holdsPath_withoutPath_iff.2 ⟨huntaken, hsame⟩))
      exact holdsPath_iff.2 ⟨known, by simp [hknown], hknownSame⟩
  | case3 untaken file pending hskip ih =>
    rcases List.mem_cons.1 hpath with rfl | hrest
    · exact absurd huntaken hskip
    · exact ih hrest huntaken

/-- What a file of the set needs is in the set as well, if it may be taken. -/
theorem holdsPath_takeFiles_of_neededBy (hfile : file ∈ takeFiles r untaken pending)
    (hneeded : path ∈ r.neededBy file) (huntaken : holdsPath untaken path = true) :
    holdsPath (takeFiles r untaken pending) path = true := by
  fun_induction takeFiles r untaken pending with
  | case1 => simp at hfile
  | case2 untaken taken pending htake ih =>
    by_cases hsame : taken.Same path
    · exact holdsPath_iff.2 ⟨taken, by simp, hsame⟩
    have hstill : holdsPath (withoutPath untaken taken) path = true :=
      holdsPath_withoutPath_iff.2 ⟨huntaken, hsame⟩
    have hrest : holdsPath (takeFiles r (withoutPath untaken taken) (r.neededBy taken ++ pending))
        path = true := by
      rcases List.mem_cons.1 hfile with rfl | hfile
      · -- the file was taken here, so what it needs comes first among the pending files
        exact holdsPath_takeFiles (by simp [hneeded]) hstill
      · exact ih hfile hstill
    obtain ⟨known, hknown, hknownSame⟩ := holdsPath_iff.1 hrest
    exact holdsPath_iff.2 ⟨known, by simp [hknown], hknownSame⟩
  | case3 untaken taken pending _ ih => exact ih hfile huntaken

/-- Whatever a file needs is the file of some module. -/
theorem holdsPath_modules_of_neededBy (h : path ∈ r.neededBy file) :
    holdsPath (r.modules.map Module.path) path = true := by
  obtain ⟨i, -, parent, child, -, -, hchild, rfl⟩ := mem_neededBy_iff.1 h
  exact holdsPath_iff.2
    ⟨child.path, List.mem_map_of_mem (List.mem_of_getElem? hchild), Path.Same.refl _⟩

/-! ### Compile sets -/

theorem mem_compileSet_iff {id : ModuleId} {m : Module} (hm : r.get? id = some m) :
    path ∈ r.compileSet id ↔ path ∈ takeFiles r (r.modules.map Module.path) [m.path] := by
  simp [compileSet, hm]

/-- With every file of a compile set the set holds the files it needs. -/
theorem isFileClosed_compileSet {id : ModuleId} {m : Module} (hm : r.get? id = some m) :
    r.IsFileClosed m fun p => holdsPath (r.compileSet id) p = true := by
  have hset : ∀ p, holdsPath (r.compileSet id) p = true ↔
      holdsPath (takeFiles r (r.modules.map Module.path) [m.path]) p = true := fun p => by
    simp only [holdsPath_iff, mem_compileSet_iff hm]
  simp only [hset]
  refine ⟨holdsPath_takeFiles (by simp) ?_, fun f hf i hi parent child hparent hsame hchild => ?_⟩
  · exact holdsPath_iff.2
      ⟨m.path, List.mem_map_of_mem (List.mem_of_getElem? hm), Path.Same.refl _⟩
  · obtain ⟨known, hknown, hknownSame⟩ := holdsPath_iff.1 hf
    have hneeded : child.path ∈ r.neededBy known :=
      mem_neededBy_iff.2 ⟨i, hi, parent, child, hparent, hsame.trans hknownSame.symm, hchild, rfl⟩
    exact holdsPath_takeFiles_of_neededBy hknown hneeded (holdsPath_modules_of_neededBy hneeded)

/-- A compile set holds what its files need. -/
theorem holdsPath_compileSet_of_neededBy {id : ModuleId} {m : Module} (hm : r.get? id = some m)
    (hfile : holdsPath (r.compileSet id) file = true) (hneeded : path ∈ r.neededBy file) :
    holdsPath (r.compileSet id) path = true := by
  obtain ⟨i, hi, parent, child, hparent, hsame, hchild, rfl⟩ := mem_neededBy_iff.1 hneeded
  exact (isFileClosed_compileSet hm).step file hfile i hi parent child hparent hsame hchild

/-- A compile set stands in strictly increasing order of paths. -/
theorem pairwise_compileSet (r : Registry) (id : ModuleId) :
    (r.compileSet id).Pairwise fun p q => p.compare q = .lt ∧ ¬p.Same q := by
  unfold compileSet
  split
  · next m hm =>
    -- sorting keeps the walk free of repeats, so the order is strict
    let walk := takeFiles r (r.modules.map Module.path) [m.path]
    have hsorted : (walk.mergeSort Path.isLE).Pairwise fun p q => p.isLE q = true :=
      List.pairwise_mergeSort Path.isLE_trans Path.isLE_total walk
    have hdistinct : (walk.mergeSort Path.isLE).Pairwise fun p q => ¬p.Same q :=
      (List.Perm.pairwise_iff (fun h h' => h h'.symm) (List.mergeSort_perm walk _)).2
        pairwise_takeFiles
    refine (hsorted.and hdistinct).imp fun h => ?_
    exact ⟨Path.compare_eq_lt_of_isLE h.1 h.2, h.2⟩
  · exact .nil

/-- For a module of the registry the compile set is the least closed set of files up to the
components of paths, in strictly increasing order of paths and without repeats. Other ids have no
compile set. -/
theorem compileSet_isLeast (r : Registry) (id : ModuleId) :
    (r.get? id = none → r.compileSet id = []) ∧
      ∀ m, r.get? id = some m →
        r.IsFileClosed m (fun p => holdsPath (r.compileSet id) p = true) ∧
        (∀ S, r.IsFileClosed m S → ∀ p ∈ r.compileSet id, S p) ∧
        (r.compileSet id).Pairwise (fun p q => p.compare q = .lt ∧ ¬p.Same q) := by
  refine ⟨fun hnone => by simp [compileSet, hnone], fun m hm => ?_⟩
  refine ⟨isFileClosed_compileSet hm, fun S hS p hp => ?_, pairwise_compileSet r id⟩
  refine mem_of_mem_takeFiles (fun f hf q hq => ?_) ?_ p ((mem_compileSet_iff hm).1 hp)
  · obtain ⟨i, hi, parent, child, hparent, hsame, hchild, rfl⟩ := mem_neededBy_iff.1 hq
    exact hS.step f hf i hi parent child hparent hsame hchild
  · rintro q hq
    rw [List.mem_singleton.1 hq]
    exact hS.own

end Registry

end DesignAtlas
