import DesignAtlas.Design.Arena
import DesignAtlas.Proofs.Design.CallHistory
import Mathlib.Data.List.Sort

/-!
# Arenas in step

An arena holds some things twice: the keys of its modules are in the index as well, and their names
in the list of names. In an arena that is filled by calls they never fall apart, so every operation
on it does what the operation on its registry does.

* `Arena.ofRegistry`: a registry with the index and the names that belong to it.
* `register_ofRegistry`: a registration keeps them in step. `apply_resolveAll_ofRegistry`: so does
  the recording of all links.
* `submodules_eq`: the instantiations of a module are found in the order they were recorded.
* `Arena.IsRecordOf`: what an arena tells is what the history of its calls tells.
* `isRecordOf_run`: every arena is the record of its calls, and the place of a key is answered
  whenever the key is registered.
-/

namespace DesignAtlas.Arena

open Registry (Call keys registered added lastRegistered?)

/-- A registry with the index of its keys and the list of its names. -/
def ofRegistry (r : Registry) : Arena where
  toRegistry := r
  index := r.modules.zipIdx.map fun entry => (entry.1.key, entry.2)
  names := r.names

variable {r : Registry} {m : Module}

/-! ### Registering -/

/-- A key is found in the index where its module is found among the modules. -/
theorem lookup_index (modules : List Module) (m : Module) (start : Nat) :
    ((modules.zipIdx start).map fun entry => (entry.1.key, entry.2)).lookup m.key =
      (modules.findIdx? fun known => known.SameKey m).map (start + ·) := by
  induction modules generalizing start with
  | nil => rfl
  | cons known modules ih =>
    rw [List.zipIdx_cons, List.map_cons, List.lookup_cons, List.findIdx?_cons, ih]
    -- both searches stop at the first module of the key, and count on behind any other one
    by_cases hkey : known.SameKey m
    · have hsame : (m.key == known.key) = true := by
        rw [beq_iff_eq, Module.sameKey_iff.1 hkey]
      simp [hkey, hsame]
    · have hother : (m.key == known.key) = false := by
        rw [beq_eq_false_iff_ne]
        exact fun h => hkey (Module.sameKey_iff.2 h.symm)
      simp only [hkey, hother, decide_false, Option.map_map, Bool.false_eq_true, if_false]
      congr 1
      funext id
      simp only [Function.comp_apply]
      omega

/-- A module that takes the place of one with its key changes neither the index nor the names. -/
theorem ofRegistry_set {id : ModuleId}
    (hid : (r.modules.findIdx? fun known => known.SameKey m) = some id) :
    ofRegistry { r with modules := r.modules.set id m } =
      { ofRegistry r with modules := r.modules.set id m } := by
  obtain ⟨hlt, hsame, -⟩ := List.findIdx?_eq_some_iff_getElem.1 hid
  have hkey : m.key = r.modules[id].key :=
    (Module.sameKey_iff.1 (of_decide_eq_true hsame)).symm
  -- the index and the names are made of the keys, and these stay
  have hkeys : (r.modules.set id m).map Module.key = r.modules.map Module.key := by
    rw [List.map_set, hkey, ← List.map_set, List.set_getElem_self]
  have hindex : ∀ modules : List Module,
      (modules.zipIdx.map fun entry => (entry.1.key, entry.2)) =
        (modules.map Module.key).zipIdx := by
    intro modules
    rw [List.zipIdx_map]
    rfl
  have hnames : ∀ modules : List Module,
      modules.map Module.name = (modules.map Module.key).map Prod.fst := by
    intro modules
    rw [List.map_map]
    rfl
  simp only [ofRegistry, Registry.names, hindex, hnames, hkeys]

/-- A module with a new key extends the index, and the names if its name is new. -/
theorem ofRegistry_append (r : Registry) (m : Module) :
    ofRegistry { r with modules := r.modules ++ [m] } =
      { toRegistry := { r with modules := r.modules ++ [m] }
        index := (ofRegistry r).index ++ [(m.key, r.modules.length)]
        names := if r.names.contains m.name then r.names else r.names ++ [m.name] } := by
  have hcontains : r.names.contains m.name = true ↔ m.name ∈ r.modules.map Module.name := by
    rw [List.contains_iff_mem, Registry.names, List.mem_eraseDups]
  simp only [ofRegistry, Registry.names, List.zipIdx_append, List.map_append, List.map_singleton,
    eraseDups_concat] at hcontains ⊢
  simp only [hcontains]
  simp

/-- Registering a module keeps the index and the names in step, and the id that is noted in the
index is the place of the module. -/
theorem register_ofRegistry (r : Registry) (m : Module) :
    (ofRegistry r).register m = (ofRegistry (r.register m).1, (r.register m).2) := by
  have hlookup : (ofRegistry r).index.lookup m.key =
      r.modules.findIdx? fun known => known.SameKey m := by
    rw [ofRegistry, lookup_index]
    simp
  rw [register, hlookup, Registry.register]
  cases hid : r.modules.findIdx? fun known => known.SameKey m with
  | some id => simp only [ofRegistry_set hid]; rfl
  | none => simp only [ofRegistry_append]; rfl

theorem addInstantiation_ofRegistry (r : Registry) (parent child : ModuleId) (label : String) :
    (ofRegistry r).addInstantiation parent child label =
      ofRegistry (r.addInstantiation parent child label) :=
  rfl

/-! ### Instantiations -/

/-- An instantiation is told by its place. -/
theorem eq_of_mem_outgoing {a : Arena} {id : ModuleId} {edge edge' : Instantiation × Nat}
    (hedge : edge ∈ a.outgoing id) (hedge' : edge' ∈ a.outgoing id) (hplace : edge.2 = edge'.2) :
    edge = edge' := by
  have hat : ∀ edge ∈ a.outgoing id, a.instantiations[edge.2]? = some edge.1 := fun edge h =>
    List.mem_zipIdx_iff_getElem?.1 (List.mem_filter.1 (List.mem_reverse.1 h)).1
  refine Prod.ext (Option.some_inj.1 ?_) hplace
  rw [← hat edge hedge, ← hat edge' hedge', hplace]

/-- Sorting brings the instantiations of a module back into the order they were recorded in. -/
theorem mergeSort_outgoing (a : Arena) (id : ModuleId) :
    ((a.outgoing id).mergeSort fun edge edge' => edge.2 ≤ edge'.2) =
      a.instantiations.zipIdx.filter fun edge => edge.1.parent == id := by
  let recorded := a.instantiations.zipIdx.filter fun edge => edge.1.parent == id
  have hperm : ((a.outgoing id).mergeSort fun edge edge' => edge.2 ≤ edge'.2).Perm recorded :=
    (List.mergeSort_perm _ _).trans (List.reverse_perm recorded)
  have hsorted : ((a.outgoing id).mergeSort fun edge edge' => edge.2 ≤ edge'.2).Pairwise
      fun edge edge' => edge.2 ≤ edge'.2 := by
    refine (List.pairwise_mergeSort (fun _ _ _ h h' => ?_) (fun edge edge' => ?_) _).imp
      of_decide_eq_true
    · exact decide_eq_true (Nat.le_trans (of_decide_eq_true h) (of_decide_eq_true h'))
    · simpa using Nat.le_total edge.2 edge'.2
  have hrecorded : recorded.Pairwise fun edge edge' => edge.2 ≤ edge'.2 := by
    refine List.Pairwise.filter _ (List.pairwise_map.1 ?_)
    rw [List.zipIdx_map_snd]
    exact List.Pairwise.imp Nat.le_of_lt List.pairwise_lt_range'
  -- two arrangements by place are the same, as no two instantiations have one place
  refine hperm.eq_of_pairwise (fun edge edge' hedge hedge' hle hge => ?_) hsorted hrecorded
  exact eq_of_mem_outgoing ((List.mem_mergeSort).1 hedge) (List.mem_reverse.2 hedge')
    (Nat.le_antisymm hle hge)

/-- The instantiations of a module are found in the order they were recorded. -/
theorem submodules_eq (a : Arena) (id : ModuleId) :
    a.submodules id = a.toRegistry.submodules id := by
  have hrecorded : (a.instantiations.zipIdx.filter fun edge => edge.1.parent == id).map Prod.fst =
      a.instantiations.filter fun i => i.parent == id := by
    conv_rhs => rw [← List.zipIdx_map_fst 0 a.instantiations, List.filter_map]
    rfl
  rw [submodules, mergeSort_outgoing, Registry.submodules, ← hrecorded, List.map_map]
  rfl

/-! ### Links -/

/-- The links of all modules are the instantiations that are found. -/
theorem flatMap_resolveAll_ofRegistry (r : Registry) :
    ((ofRegistry r).resolveAll.flatMap fun found =>
      found.2.map fun link => (⟨found.1, link.2, link.1⟩ : Instantiation)) = r.found := by
  have hids : r.ids = r.modules.zipIdx.map Prod.snd := by
    rw [List.zipIdx_map_snd, ← List.range_eq_range', Registry.ids]
  rw [resolveAll, Registry.found, hids, List.flatMap_map, List.flatMap_map]
  refine List.flatMap_congr fun entry hentry => ?_
  have hget : r.get? entry.2 = some entry.1 := List.mem_zipIdx_iff_getElem?.1 hentry
  rw [Registry.foundIn, hget]
  rfl

/-- Recording instantiations one behind the other extends them and nothing else. -/
theorem foldl_addInstantiation (a : Arena) (count : Nat) (found : List Instantiation) :
    found.foldl (fun recorded i =>
      (recorded.1.addInstantiation i.parent i.child i.label, recorded.2 + 1)) (a, count) =
      ({ a with instantiations := a.instantiations ++ found }, count + found.length) := by
  induction found generalizing a count with
  | nil => simp
  | cons i found ih =>
    rw [List.foldl_cons, ih, addInstantiation, List.append_assoc, List.length_cons,
      Nat.add_assoc, Nat.add_comm 1]
    rfl

/-- Recording links extends the instantiations and nothing else. -/
theorem apply_eq (a : Arena) (resolved : List (ModuleId × List (String × ModuleId))) :
    let found := resolved.flatMap fun found =>
      found.2.map fun link => (⟨found.1, link.2, link.1⟩ : Instantiation)
    a.apply resolved =
      ({ a with instantiations := a.instantiations ++ found }, found.length) := by
  intro found
  have hfold := foldl_addInstantiation a 0 found
  simp only [found, List.foldl_flatMap, List.foldl_map, Nat.zero_add] at hfold
  exact hfold

/-- Recording all links keeps the index and the names in step. -/
theorem apply_resolveAll_ofRegistry (r : Registry) :
    (ofRegistry r).apply (ofRegistry r).resolveAll = (ofRegistry r.link, r.found.length) := by
  rw [apply_eq, flatMap_resolveAll_ofRegistry]
  rfl

/-! ### The history of an arena -/

/-- Carry out a call, behind calls that left an arena and answered with some ids. -/
def carryOut (state : Arena × List ModuleId) : Call → Arena × List ModuleId
  | .register m => ((state.1.register m).1, state.2 ++ [(state.1.register m).2])
  | .add i => (state.1.addInstantiation i.parent i.child i.label, state.2)

/-- The arena that some calls make of an empty one, and the ids that they were answered with. -/
def run (calls : List Call) : Arena × List ModuleId :=
  calls.foldl carryOut (empty, [])

/-- An arena holds what a registry holds after the same calls, with the index and the names that
belong to it. -/
theorem run_eq_ofRegistry (calls : List Call) :
    run calls = (ofRegistry (Registry.run calls).1, (Registry.run calls).2) := by
  induction calls using List.reverseRecOn with
  | nil => rfl
  | append_singleton calls call ih =>
    rw [Registry.run_concat, run, List.foldl_append]
    change carryOut (run calls) call = _
    rw [ih]
    cases call with
    | register m => rw [carryOut, register_ofRegistry]; rfl
    | add i => rw [carryOut, addInstantiation_ofRegistry]; rfl

/-- What an arena tells is what the history of its calls tells. -/
structure IsRecordOf (a : Arena) (calls : List Call) : Prop where
  /-- The ids are the places of the keys. -/
  ids : a.ids = List.range (keys calls).length
  /-- The module of an id is the one registered last under the id's key. -/
  get? : ∀ id, a.get? id = (keys calls)[id]?.bind (lastRegistered? calls)
  /-- No two modules share a name and the components of their paths. -/
  distinct : ∀ id id' m m', a.get? id = some m → a.get? id' = some m' → m.SameKey m' → id = id'
  /-- The index holds the keys with their ids and nothing else. -/
  index : a.index = (keys calls).zipIdx
  /-- The names are those registered, each once, in the order of their first registration. -/
  names : a.names = ((registered calls).map Module.name).eraseDups ∧ a.names.Nodup
  /-- The definitions of a name are the ids of its keys in increasing order. -/
  idsNamed : ∀ name, (a.idsNamed name).Pairwise (· < ·) ∧
    ∀ id, id ∈ a.idsNamed name ↔ ∃ key, (keys calls)[id]? = some key ∧ key.1 = name
  /-- The modules of a file are the ids of its keys in increasing order. -/
  definedIn : ∀ path, (a.definedIn path).Pairwise (· < ·) ∧
    ∀ id, id ∈ a.definedIn path ↔ ∃ key, (keys calls)[id]? = some key ∧ key.2 = path.components
  /-- A search finds the least id whose module has the name and comes from the file, if one is
  asked for. -/
  find? : ∀ name file id, a.find? name file = some id ↔
    IsLeast {id | ∃ m, a.get? id = some m ∧ m.name = name ∧ ∀ f ∈ file, f = m.file} id
  /-- The instances in a module are those added with it as parent, in the order they were added. -/
  submodules : ∀ id, a.submodules id =
    ((added calls).filter fun i => i.parent == id).map fun i => (i.label, i.child)
  /-- A module is unreferenced as long as no instantiation was added with it as child. -/
  unreferenced : ∀ id, a.Unreferenced id ↔ ∀ i ∈ added calls, i.child ≠ id
  /-- The roots are the known ids that are unreferenced, in increasing order. -/
  roots : a.roots =
    (List.range (keys calls).length).filter fun id => ∀ i ∈ added calls, i.child ≠ id

/-- Every arena is the record of the calls that filled it, whatever they are. A registration is
answered with the place of its key among all keys, in the order of their first registration. -/
theorem isRecordOf_run (calls : List Call) :
    (run calls).1.IsRecordOf calls ∧
      (run calls).2 = (registered calls).map fun m => (keys calls).idxOf m.key := by
  have hmodules := Registry.modules_run calls
  have hadded := Registry.instantiations_run calls
  rw [run_eq_ofRegistry]
  refine ⟨?_, Registry.answers_run calls⟩
  -- from here on only the modules and the instantiations of the registry matter
  generalize (Registry.run calls).1 = r at hmodules hadded ⊢
  have hids : r.ids = List.range (keys calls).length := by
    rw [Registry.ids, Registry.length_keys hmodules]
  refine
    { ids := hids
      get? := fun id => ?_
      distinct := fun id id' m m' => Registry.eq_of_sameKey hmodules
      index := ?_
      names := ?_
      idsNamed := fun name => ⟨Registry.pairwise_idsWhere r _, fun id => ?_⟩
      definedIn := fun path => ⟨Registry.pairwise_idsWhere r _, fun id => ?_⟩
      find? := fun name file id => Registry.find?_eq_some_iff_isLeast
      submodules := fun id => ?_
      unreferenced := fun id => ?_
      roots := Registry.roots_eq hids hadded }
  · change r.get? id = _
    rw [Registry.get?, hmodules, getElem?_latest]
    rfl
  · rw [keys, ← map_key_latest, ← hmodules, List.zipIdx_map]
    rfl
  · have hnames : (ofRegistry r).names = _ := Registry.names_eq hmodules
    exact ⟨hnames, hnames ▸ nodup_eraseDups _⟩
  · exact Registry.mem_idsWhere_key_iff hmodules fun m => by rw [beq_iff_eq]; rfl
  · exact Registry.mem_idsWhere_key_iff hmodules fun m => by rw [decide_eq_true_iff]; rfl
  · rw [submodules_eq, ← hadded]
    rfl
  · rw [← hadded]
    rfl

end DesignAtlas.Arena
