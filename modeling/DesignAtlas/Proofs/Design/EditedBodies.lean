import DesignAtlas.Proofs.Design.Registering

/-!
# Edited bodies

Bodies are edited, and the modules keep their keys. Links out of the edited bodies come and go, but
a walk follows the links out of the files it takes only. So as long as no body in a compile set is
edited, the compile set stays as it is, whatever is linked around it.

The paths of both designs are looked at in some way that shows their components at least: as their
components, or as they were written. What is proved of the walk holds for both.

* `neededBy_link_congr`: a file whose bodies are unchanged needs the same files.
* `takeFiles_congr`: a walk over files that need the same ones takes the same files.
* `compileSet_registryOf_edited`: edits elsewhere leave a compile set alone.
-/

namespace DesignAtlas.Registry

variable {r r' : Registry} {id : ModuleId} {file file' : Path}

/-! ### What linking reads of a module -/

theorem map_get? {α : Type} (f : Module → α) (r : Registry) (id : ModuleId) :
    (r.get? id).map f = (r.modules.map f)[id]? :=
  List.getElem?_map.symm

/-- Registries whose modules agree in what a condition asks for agree in the ids. -/
theorem idsWhere_congr {α : Type} {f : Module → α} (h : r.modules.map f = r'.modules.map f)
    (holds : α → Bool) :
    (r.idsWhere fun m => holds (f m)) = r'.idsWhere fun m => holds (f m) := by
  have hlength : r.modules.length = r'.modules.length := by
    simpa using congrArg List.length h
  have hany : ∀ (r : Registry) id,
      (r.get? id).any (fun m => holds (f m)) = ((r.modules.map f)[id]?).any holds := fun r id => by
    rw [← map_get?, Option.any_map]
  simp only [idsWhere, ids, hlength, hany, h]

/-- The links of a body depend on the names of the modules. -/
theorem linksIn_congr (h : r.modules.map Module.name = r'.modules.map Module.name)
    (body : String) : r.linksIn body = r'.linksIn body := by
  have hnamed : ∀ name, r.idsNamed name = r'.idsNamed name := fun name =>
    idsWhere_congr h (· == name)
  simp only [linksIn, names, h, hnamed]

theorem definedIn_congr
    (h : r.modules.map (fun m => m.path.components) = r'.modules.map fun m => m.path.components)
    (hfile : file.Same file') : r.definedIn file = r'.definedIn file' := by
  have hsame := idsWhere_congr h fun components => decide (components = file.components)
  rw [definedIn, definedIn]
  simp only [Path.Same, ← show file.components = file'.components from hfile]
  exact hsame

/-! ### Walks over files -/

section Look

variable {α : Type} {look : Path → α} {shown : α → List Path.Component}
  (hlook : ∀ p, shown (look p) = p.components)
include hlook

/-- Paths that look alike name the same components. -/
theorem same_of_look_eq (h : look file = look file') : file.Same file' := by
  rw [Path.Same, ← hlook, ← hlook, h]

theorem map_components_of_map_look
    (hpaths : r.modules.map (fun m => look m.path) = r'.modules.map fun m => look m.path) :
    r.modules.map (fun m => m.path.components) = r'.modules.map fun m => m.path.components := by
  have hshown := congrArg (List.map shown) hpaths
  simpa only [List.map_map, Function.comp_def, hlook] using hshown

/-- A file whose bodies are unchanged needs the same files. -/
theorem neededBy_link_congr
    (hr : r.instantiations = []) (hr' : r'.instantiations = [])
    (hnames : r.modules.map Module.name = r'.modules.map Module.name)
    (hpaths : r.modules.map (fun m => look m.path) = r'.modules.map fun m => look m.path)
    (hfile : file.Same file')
    (hbodies : ∀ id m m', r.get? id = some m → r'.get? id = some m' → m.path.Same file →
      m.body = m'.body) :
    (r.link.neededBy file).map look = (r'.link.neededBy file').map look := by
  have hdefined : r.link.definedIn file = r'.link.definedIn file' :=
    definedIn_congr (map_components_of_map_look hlook hpaths) hfile
  have hpath : ∀ id, ((r.link.get? id).map Module.path).map look =
      ((r'.link.get? id).map Module.path).map look := fun id => by
    rw [Option.map_map, Option.map_map]
    exact (map_get? _ r id).trans (hpaths ▸ (map_get? _ r' id).symm)
  rw [neededBy, neededBy, List.map_flatMap, List.map_flatMap, ← hdefined]
  refine List.flatMap_congr fun id hid => ?_
  obtain ⟨m, hm, hsame⟩ := mem_idsWhere.1 hid
  obtain ⟨m', hm', hsame'⟩ := mem_idsWhere.1 (hdefined ▸ hid)
  -- the module has the same body in both registries, and links only go by names
  have hsubmodules : r.link.submodules id = r'.link.submodules id := by
    rw [submodules_link hr hm, submodules_link hr' hm', linksIn_congr hnames,
      hbodies id m m' hm hm' (of_decide_eq_true hsame)]
  rw [hsubmodules, List.map_filterMap, List.map_filterMap]
  exact List.filterMap_congr fun instantiated _ => hpath instantiated.2

/-- Two walks that may take the same files and start with the same pending ones take the same
files, if these need the same ones in both registries. -/
theorem takeFiles_congr {untaken untaken' pending pending' : List Path}
    (huntaken : untaken.map Path.components = untaken'.map Path.components)
    (hpending : pending.map look = pending'.map look)
    (hneeds : ∀ f ∈ takeFiles r untaken pending, ∀ f', look f = look f' →
      (r.neededBy f).map look = (r'.neededBy f').map look) :
    (takeFiles r untaken pending).map look = (takeFiles r' untaken' pending').map look := by
  fun_induction takeFiles r untaken pending generalizing untaken' pending' with
  | case1 untaken =>
    obtain rfl : pending' = [] := by simpa using hpending.symm
    rw [takeFiles]
  | case2 untaken f pending htake ih =>
    obtain ⟨f', pending', rfl, hf, hrest⟩ := List.map_eq_cons_iff.1 hpending.symm
    have hsame : f.Same f' := same_of_look_eq hlook hf.symm
    have htake' : holdsPath untaken' f' = true := holdsPath_congr huntaken hsame ▸ htake
    rw [takeFiles, if_pos htake', List.map_cons, List.map_cons, hf]
    -- what the file needs comes first among the pending files in both walks
    congr 1
    refine ih ?_ ?_ fun g hg => hneeds g (List.mem_cons_of_mem f hg)
    · rw [map_components_withoutPath, map_components_withoutPath, huntaken,
        show f.components = f'.components from hsame]
    · rw [List.map_append, List.map_append, hneeds f List.mem_cons_self f' hf.symm, hrest]
  | case3 untaken f pending hskip ih =>
    obtain ⟨f', pending', rfl, hf, hrest⟩ := List.map_eq_cons_iff.1 hpending.symm
    have hsame : f.Same f' := same_of_look_eq hlook hf.symm
    have hskip' : ¬holdsPath untaken' f' = true := holdsPath_congr huntaken hsame ▸ hskip
    rw [takeFiles, if_neg hskip']
    exact ih huntaken hrest.symm hneeds

/-- If the files of a compile set need the same files in another registry, the compile set is the
same there. -/
theorem compileSet_congr
    (hpaths : r.modules.map (fun m => look m.path) = r'.modules.map fun m => look m.path)
    (hneeds : ∀ f ∈ r.compileSet id, ∀ f', look f = look f' →
      (r.neededBy f).map look = (r'.neededBy f').map look) :
    (r.compileSet id).map look = (r'.compileSet id).map look := by
  have hget : (r.get? id).map (fun m => look m.path) = (r'.get? id).map fun m => look m.path := by
    rw [map_get?, map_get?, hpaths]
  cases hm : r.get? id with
  | none =>
    rw [hm, Option.map_none] at hget
    have hm' : r'.get? id = none := Option.map_eq_none_iff.1 hget.symm
    rw [compileSet, compileSet, hm, hm']
  | some m =>
    rw [hm, Option.map_some] at hget
    obtain ⟨m', hm', hown⟩ := Option.map_eq_some_iff.1 hget.symm
    have hcomponents : (r.modules.map Module.path).map Path.components =
        (r'.modules.map Module.path).map Path.components := by
      rw [List.map_map, List.map_map]
      exact map_components_of_map_look hlook hpaths
    have hwalk : (takeFiles r (r.modules.map Module.path) [m.path]).map look =
        (takeFiles r' (r'.modules.map Module.path) [m'.path]).map look :=
      takeFiles_congr hlook hcomponents (by simp [hown]) fun f hf =>
        hneeds f ((mem_compileSet_iff hm).2 hf)
    -- paths are sorted by what every look at them shows
    have hsort : ∀ paths : List Path, (paths.mergeSort Path.isLE).map look =
        (paths.map look).mergeSort fun a b =>
          (List.compareLex Path.Component.compare (shown a) (shown b)).isLE := fun paths =>
      List.map_mergeSort fun p _ q _ => by rw [hlook, hlook]; rfl
    simp only [compileSet, hm, hm', hsort, hwalk]

end Look

/-- If modules agree in their keys and in something else, so do the registered ones. -/
theorem map_modules_foldl_register_congr {α : Type} {f : Module → α} {ms ms' : List Module}
    (hkeys : ms.map Module.key = ms'.map Module.key) (h : ms.map f = ms'.map f) :
    (ms.foldl (fun r m => (r.register m).1) empty).modules.map f =
      (ms'.foldl (fun r m => (r.register m).1) empty).modules.map f := by
  have hzip : ∀ ms : List Module,
      ms.map (fun m => (m.key, f m)) = (ms.map Module.key).zip (ms.map f) :=
    fun ms => List.zip_map'.symm
  -- beside its key everything else of a module is kept or replaced alike
  have hlatest : ∀ ms : List Module, latest Prod.fst (ms.map fun m => (m.key, f m)) =
      (latest Module.key ms).map fun m => (m.key, f m) :=
    latest_map Function.injective_id fun m => rfl
  have hregistered : (latest Module.key ms).map (fun m => (m.key, f m)) =
      (latest Module.key ms').map fun m => (m.key, f m) := by
    rw [← hlatest, ← hlatest, hzip, hzip, hkeys, h]
  rw [modules_foldl_register, modules_foldl_register]
  simpa [Function.comp_def] using congrArg (List.map Prod.snd) hregistered

end DesignAtlas.Registry

namespace DesignAtlas.Analysis

variable {ms ms' : List Module} {id : ModuleId}

/-- The compile set of a module looks the same in both designs if the bodies in it are the same. -/
theorem map_compileSet_registryOf {α : Type} (look : Path → α) (shown : α → List Path.Component)
    (hlook : ∀ p, shown (look p) = p.components) (hkeys : ms.map Module.key = ms'.map Module.key)
    (hpaths : ms.map (fun m => look m.path) = ms'.map fun m => look m.path)
    (hbodies : ∀ other m m', (registryOf ms).get? other = some m →
      (registryOf ms').get? other = some m' →
        Registry.holdsPath ((registryOf ms).compileSet id) m.path = true → m.body = m'.body) :
    ((registryOf ms).compileSet id).map look = ((registryOf ms').compileSet id).map look := by
  have hnone := fun ms => Registry.instantiations_foldl_register ms Registry.empty
  have hnames : ms.map Module.name = ms'.map Module.name := by
    simpa [Function.comp_def, Module.key] using congrArg (List.map Prod.fst) hkeys
  have hnames := Registry.map_modules_foldl_register_congr hkeys hnames
  have hpaths := Registry.map_modules_foldl_register_congr hkeys hpaths
  -- only the bodies in the files of the compile set are compared
  refine Registry.compileSet_congr hlook hpaths fun f hf f' hsame => ?_
  have hfile : f.Same f' := Registry.same_of_look_eq hlook hsame
  refine Registry.neededBy_link_congr hlook (hnone ms) (hnone ms') hnames hpaths hfile ?_
  intro other m m' hm hm' hin
  exact hbodies other m m' hm hm' (Registry.holdsPath_iff.2 ⟨f, hf, hin.symm⟩)

/-- Modules with the same keys are registered in two designs. If the bodies in the compile set of a
module are the same in both, the module has the same compile set in both, whatever the other bodies
are. If the paths of the modules are written alike as well, so are the files of the set. -/
theorem compileSet_registryOf_edited (hkeys : ms.map Module.key = ms'.map Module.key)
    (hbodies : ∀ other m m', (registryOf ms).get? other = some m →
      (registryOf ms').get? other = some m' →
        Registry.holdsPath ((registryOf ms).compileSet id) m.path = true → m.body = m'.body) :
    ((registryOf ms).compileSet id).map Path.components =
        ((registryOf ms').compileSet id).map Path.components ∧
      (ms.map Module.path = ms'.map Module.path →
        (registryOf ms).compileSet id = (registryOf ms').compileSet id) := by
  constructor
  · have hcomponents : ms.map (fun m => m.path.components) =
        ms'.map fun m => m.path.components := by
      simpa [Function.comp_def, Module.key] using congrArg (List.map Prod.snd) hkeys
    exact map_compileSet_registryOf Path.components (fun shown => shown) (fun p => rfl) hkeys
      hcomponents hbodies
  · intro hpaths
    have hsame := map_compileSet_registryOf (fun p => p) Path.components (fun p => rfl) hkeys
      hpaths hbodies
    simpa using hsame

/-- A design of three files, with this body in the third one. -/
def threeFiles (body : String) : List Module :=
  [⟨"top", "a.v", ⟨"p/a.v"⟩, 0, " n u();"⟩, ⟨"n", "b.v", ⟨"p/b.v"⟩, 0, ""⟩,
    ⟨"spare", "c.v", ⟨"p/c.v"⟩, 0, body⟩]

/-- A body outside the compile set starts to instantiate the modules in it. -/
theorem compileSet_registryOf_edited_threeFiles :
    (registryOf (threeFiles "")).compileSet 0 =
      (registryOf (threeFiles " top t(); n v();")).compileSet 0 := by
  have hinside : ∀ p ∈ (registryOf (threeFiles "")).compileSet 0,
      p ∈ ([⟨"p/a.v"⟩, ⟨"p/b.v"⟩] : List Path) := fun p hp =>
    Registry.mem_of_mem_takeFiles (by decide +kernel) (by decide +kernel) p
      ((Registry.mem_compileSet_iff rfl).1 hp)
  refine (@compileSet_registryOf_edited (threeFiles "") (threeFiles " top t(); n v();") 0 rfl
    fun other m m' hm hm' hin => ?_).2 rfl
  match other with
  | 0 | 1 =>
    cases hm
    cases hm'
    rfl
  | 2 =>
    -- the third file is none of the compile set
    cases hm
    obtain ⟨known, hknown, hsame⟩ := Registry.holdsPath_iff.1 hin
    have hnone : ∀ p ∈ ([⟨"p/a.v"⟩, ⟨"p/b.v"⟩] : List Path), ¬p.Same ⟨"p/c.v"⟩ := by
      decide +kernel
    exact absurd hsame (hnone known (hinside known hknown))
  | other + 3 => cases hm

end DesignAtlas.Analysis
