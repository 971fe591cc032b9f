import DesignAtlas.Proofs.Design.Registering
import Mathlib.Order.Bounds.Basic

/-!
# The history of a registry

A registry is filled by calls that register a module or add an instantiation, in any order. What it
holds afterwards is told by the history of these calls alone, without the registry.

* `Call`: a call to a registry. `run`: a registry after some calls, with the ids it answered with.
* `keys`: the keys that were registered, in the order of their first registration.
* `modules_run`, `instantiations_run`: what a registry holds after some calls.
* `answers_run`: the place of a key is answered whenever the key is registered.
* `mem_idsWhere_key_iff`, `find?_eq_some_iff_isLeast`, `names_eq`, `roots_eq`: what is looked up.
-/

namespace DesignAtlas.Registry

/-- A call that changes a registry. -/
inductive Call where
  /-- Register a module. -/
  | register (m : Module)
  /-- Record an instantiation. -/
  | add (i : Instantiation)

namespace Call

/-- The module that a call registers. -/
def module? : Call → Option Module
  | register m => some m
  | add _ => none

/-- The instantiation that a call adds. -/
def instantiation? : Call → Option Instantiation
  | register _ => none
  | add i => some i

end Call

/-- Carry out a call, behind calls that left a registry and answered with some ids. -/
def carryOut (state : Registry × List ModuleId) : Call → Registry × List ModuleId
  | .register m => ((state.1.register m).1, state.2 ++ [(state.1.register m).2])
  | .add i => (state.1.addInstantiation i.parent i.child i.label, state.2)

/-- The registry that some calls make of an empty one, and the ids that they were answered with. -/
def run (calls : List Call) : Registry × List ModuleId :=
  calls.foldl carryOut (empty, [])

/-! ### The history -/

/-- The modules registered, in order. -/
def registered (calls : List Call) : List Module :=
  calls.filterMap Call.module?

/-- The instantiations added, in order. -/
def added (calls : List Call) : List Instantiation :=
  calls.filterMap Call.instantiation?

/-- The keys registered, each once, in the order of their first registration. -/
def keys (calls : List Call) : List (String × List Path.Component) :=
  ((registered calls).map Module.key).eraseDups

/-- The module registered last under a key. -/
def lastRegistered? (calls : List Call) (key : String × List Path.Component) : Option Module :=
  (registered calls).findRev? fun m => m.key == key

/-! ### One more call -/

section Concat

variable (calls : List Call) (call : Call)

theorem run_concat : run (calls ++ [call]) = carryOut (run calls) call := by
  rw [run, List.foldl_append]
  rfl

theorem registered_concat :
    registered (calls ++ [call]) = registered calls ++ call.module?.toList := by
  rw [registered, List.filterMap_append]
  cases call <;> rfl

theorem added_concat :
    added (calls ++ [call]) = added calls ++ call.instantiation?.toList := by
  rw [added, List.filterMap_append]
  cases call <;> rfl

/-- The keys that were there keep their places. -/
theorem idxOf_keys_concat {m : Module} (hm : m ∈ registered calls) :
    (keys (calls ++ [call])).idxOf m.key = (keys calls).idxOf m.key := by
  have hkey : m.key ∈ keys calls := List.mem_eraseDups.2 (List.mem_map_of_mem hm)
  rw [keys, registered_concat, List.map_append, List.eraseDups_append, List.idxOf_append]
  exact if_pos hkey

end Concat

/-! ### Every call -/

theorem instantiations_run (calls : List Call) : (run calls).1.instantiations = added calls := by
  induction calls using List.reverseRecOn with
  | nil => rfl
  | append_singleton calls call ih =>
    rw [run_concat, added_concat, ← ih]
    cases call with
    | register m => exact (instantiations_register _ m).trans (List.append_nil _).symm
    | add i => rfl

theorem modules_run (calls : List Call) :
    (run calls).1.modules = latest Module.key (registered calls) := by
  induction calls using List.reverseRecOn with
  | nil => rfl
  | append_singleton calls call ih =>
    rw [run_concat, registered_concat]
    cases call with
    | register m => rw [carryOut, register_eq ih]; rfl
    | add i => exact ih.trans (by rw [Call.module?, Option.toList_none, List.append_nil])

/-- Every registration is answered with the place of its key. -/
theorem answers_run (calls : List Call) :
    (run calls).2 = (registered calls).map fun m => (keys calls).idxOf m.key := by
  induction calls using List.reverseRecOn with
  | nil => rfl
  | append_singleton calls call ih =>
    -- one more call leaves the earlier answers right
    have hearlier : ((registered calls).map fun m => (keys (calls ++ [call])).idxOf m.key) =
        (registered calls).map fun m => (keys calls).idxOf m.key :=
      List.map_congr_left fun m hm => idxOf_keys_concat calls call hm
    rw [run_concat, registered_concat, List.map_append, hearlier, ← ih]
    cases call with
    | register m =>
      rw [carryOut, register_eq (modules_run calls), keys, registered_concat]
      rfl
    | add i => exact (List.append_nil _).symm

/-! ### What is looked up -/

variable {r : Registry} {calls : List Call}

theorem getElem?_keys (hr : r.modules = latest Module.key (registered calls)) (id : ModuleId) :
    (keys calls)[id]? = (r.get? id).map Module.key := by
  rw [keys, ← map_key_latest, ← hr, List.getElem?_map, get?]

theorem length_keys (hr : r.modules = latest Module.key (registered calls)) :
    (keys calls).length = r.modules.length := by
  rw [keys, ← map_key_latest, ← hr, List.length_map]

theorem pairwise_idsWhere (r : Registry) (holds : Module → Bool) :
    (r.idsWhere holds).Pairwise (· < ·) :=
  List.pairwise_lt_range.filter _

/-- The ids of the modules whose keys satisfy a condition. -/
theorem mem_idsWhere_key_iff (hr : r.modules = latest Module.key (registered calls))
    {holds : Module → Bool} {P : String × List Path.Component → Prop}
    (hP : ∀ m, holds m = true ↔ P m.key) {id : ModuleId} :
    id ∈ r.idsWhere holds ↔ ∃ key, (keys calls)[id]? = some key ∧ P key := by
  simp only [mem_idsWhere, getElem?_keys hr, Option.map_eq_some_iff, hP]
  constructor
  · rintro ⟨m, hm, hkey⟩
    exact ⟨m.key, ⟨m, hm, rfl⟩, hkey⟩
  · rintro ⟨_, ⟨m, hm, rfl⟩, hkey⟩
    exact ⟨m, hm, hkey⟩

/-- The first of some increasing ids is the least one. -/
theorem head?_eq_some_iff_isLeast {ids : List ModuleId} (hids : ids.Pairwise (· < ·))
    {id : ModuleId} : ids.head? = some id ↔ IsLeast {id | id ∈ ids} id := by
  cases ids with
  | nil =>
    rw [List.head?_nil]
    exact ⟨nofun, fun h => absurd h.1 List.not_mem_nil⟩
  | cons first others =>
    have hfirst : IsLeast {id | id ∈ first :: others} first := by
      refine ⟨List.mem_cons_self, fun other hother => ?_⟩
      rcases List.mem_cons.1 hother with rfl | hother
      · exact le_rfl
      · exact Nat.le_of_lt (List.rel_of_pairwise_cons hids hother)
    rw [List.head?_cons, Option.some_inj]
    exact ⟨fun h => h ▸ hfirst, fun h => hfirst.unique h⟩

theorem find?_eq_some_iff_isLeast {name : String} {file : Option String} {id : ModuleId} :
    r.find? name file = some id ↔
      IsLeast {id | ∃ m, r.get? id = some m ∧ m.name = name ∧ ∀ f ∈ file, f = m.file} id := by
  have hmem : ∀ id, id ∈ r.idsWhere (fun m => m.name == name && file.all (· == m.file)) ↔
      ∃ m, r.get? id = some m ∧ m.name = name ∧ ∀ f ∈ file, f = m.file := by
    intro id
    simp only [mem_idsWhere, Bool.and_eq_true, beq_iff_eq, Option.all_eq_true, Option.mem_def]
  simp only [find?, head?_eq_some_iff_isLeast (pairwise_idsWhere r _), hmem]

/-- The names are those of the keys, so it does not matter which modules were replaced. -/
theorem names_eq (hr : r.modules = latest Module.key (registered calls)) :
    r.names = ((registered calls).map Module.name).eraseDups := by
  have hkeys : ∀ ms : List Module, ms.map Module.name = (ms.map Module.key).map Prod.fst := by
    intro ms
    rw [List.map_map]
    rfl
  rw [names, hr, hkeys, hkeys, map_key_latest, eraseDups_map_eraseDups]

/-- No two places hold modules with the same key. -/
theorem eq_of_sameKey (hr : r.modules = latest Module.key (registered calls)) {id id' : ModuleId}
    {m m' : Module} (hm : r.get? id = some m) (hm' : r.get? id' = some m') (hsame : m.SameKey m') :
    id = id' := by
  have hkey : (keys calls)[id]? = (keys calls)[id']? := by
    rw [getElem?_keys hr, getElem?_keys hr, hm, hm', Option.map_some, Option.map_some,
      Module.sameKey_iff.1 hsame]
  have hlt : id < (keys calls).length := by
    rw [length_keys hr]
    exact (List.getElem?_eq_some_iff.1 hm).1
  exact (List.getElem?_inj hlt (nodup_eraseDups _)).1 hkey

theorem roots_eq (hids : r.ids = List.range (keys calls).length)
    (hadded : r.instantiations = added calls) :
    r.roots =
      (List.range (keys calls).length).filter fun id => ∀ i ∈ added calls, i.child ≠ id := by
  rw [roots, hids]
  refine List.filter_congr fun id _ => ?_
  rw [decide_eq_decide, Unreferenced, hadded]

end DesignAtlas.Registry
