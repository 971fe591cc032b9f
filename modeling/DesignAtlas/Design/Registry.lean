import DesignAtlas.Path

/-!
# The registry of modules

A registry holds the modules of a design and the instantiations between them. A module's place in
the registry is its id. Modules refer to each other by id only, so a cycle of instantiations is
nothing special.

* `register` adds a module, or puts it in the place of the one with the same name and file.
* `addInstantiation` records that a module instantiates another one under a name.
* Everything else is read off the two lists.
-/

namespace DesignAtlas

/-- The place of a module in its registry. -/
abbrev ModuleId := Nat

/-- A module of a design. -/
structure Module where
  /-- The name of the module. -/
  name : String
  /-- The name of the file that defines it, within the project's directory. -/
  file : String
  /-- The path of the file that defines it. -/
  path : Path
  /-- The line of its header, counted from zero. -/
  line : Nat
  /-- The text of its body. -/
  body : String
  deriving DecidableEq, Repr

/-- Two modules share a place in the registry: they have one name and come from one file. -/
def Module.SameKey (m n : Module) : Prop :=
  m.name = n.name ∧ m.path.Same n.path

instance (m n : Module) : Decidable (m.SameKey n) :=
  inferInstanceAs (Decidable (_ ∧ _))

/-- What a module is registered under: its name, and the components of its path. -/
def Module.key (m : Module) : String × List Path.Component :=
  (m.name, m.path.components)

theorem Module.sameKey_iff {m n : Module} : m.SameKey n ↔ m.key = n.key :=
  Prod.mk.injEq .. ▸ Iff.rfl

/-- The fact that one module instantiates another one. -/
structure Instantiation where
  /-- The module whose body holds the instance. -/
  parent : ModuleId
  /-- The module that is instantiated. -/
  child : ModuleId
  /-- The name of the instance. -/
  label : String
  deriving DecidableEq, Repr

/-- The modules of a design and their instantiations, both in the order they were recorded. -/
structure Registry where
  /-- The modules; the id of a module is its place in this list. -/
  modules : List Module
  /-- The instantiations. -/
  instantiations : List Instantiation
  deriving DecidableEq, Repr

namespace Registry

/-- The registry without modules. -/
def empty : Registry :=
  ⟨[], []⟩

/-- Add a module, or put it in the place of the module with the same name and file. Gives the
module's id along with the registry. -/
def register (r : Registry) (m : Module) : Registry × ModuleId :=
  match r.modules.findIdx? fun known => known.SameKey m with
  | some id => ({ r with modules := r.modules.set id m }, id)
  | none => ({ r with modules := r.modules ++ [m] }, r.modules.length)

/-- Record that `parent` instantiates `child` under the name `label`. -/
def addInstantiation (r : Registry) (parent child : ModuleId) (label : String) : Registry :=
  { r with instantiations := r.instantiations ++ [⟨parent, child, label⟩] }

/-- The module of an id. -/
def get? (r : Registry) (id : ModuleId) : Option Module :=
  r.modules[id]?

/-- The name of the module of an id, and the empty text for an unknown id. -/
def nameOf (r : Registry) (id : ModuleId) : String :=
  (r.get? id).elim "" Module.name

/-- The ids of all modules. -/
def ids (r : Registry) : List ModuleId :=
  List.range r.modules.length

/-- The ids of the modules that satisfy a condition. -/
def idsWhere (r : Registry) (holds : Module → Bool) : List ModuleId :=
  r.ids.filter fun id => (r.get? id).any holds

/-- The names of the modules, each once, in the order of their first registration. -/
def names (r : Registry) : List String :=
  (r.modules.map Module.name).eraseDups

/-- The definitions of a name. -/
def idsNamed (r : Registry) (name : String) : List ModuleId :=
  r.idsWhere fun m => m.name == name

/-- The first definition of a name, in any file or in the file named. -/
def find? (r : Registry) (name : String) (file : Option String) : Option ModuleId :=
  (r.idsWhere fun m => m.name == name && file.all (· == m.file)).head?

/-- The modules that a file defines. -/
def definedIn (r : Registry) (path : Path) : List ModuleId :=
  r.idsWhere fun m => m.path.Same path

/-- The instances in a module, with the modules they are instances of, in the order recorded. -/
def submodules (r : Registry) (id : ModuleId) : List (String × ModuleId) :=
  (r.instantiations.filter fun i => i.parent == id).map fun i => (i.label, i.child)

/-- No module instantiates this one. -/
def Unreferenced (r : Registry) (id : ModuleId) : Prop :=
  ∀ i ∈ r.instantiations, i.child ≠ id

instance (r : Registry) (id : ModuleId) : Decidable (r.Unreferenced id) :=
  inferInstanceAs (Decidable (∀ i ∈ r.instantiations, i.child ≠ id))

/-- The modules that no module instantiates. -/
def roots (r : Registry) : List ModuleId :=
  r.ids.filter fun id => r.Unreferenced id

@[simp]
theorem get?_empty (id : ModuleId) : empty.get? id = none := rfl

@[simp]
theorem mem_ids {r : Registry} {id : ModuleId} : id ∈ r.ids ↔ id < r.modules.length := by
  simp [ids]

theorem mem_idsWhere {r : Registry} {holds : Module → Bool} {id : ModuleId} :
    id ∈ r.idsWhere holds ↔ ∃ m, r.get? id = some m ∧ holds m = true := by
  simp only [idsWhere, List.mem_filter, mem_ids, Option.any_eq_true, get?]
  constructor
  · exact fun h => h.2
  · rintro ⟨m, hm, hh⟩
    exact ⟨(List.getElem?_eq_some_iff.1 hm).1, m, hm, hh⟩

/-- Registering a module leaves the instantiations alone. -/
@[simp]
theorem instantiations_register (r : Registry) (m : Module) :
    (r.register m).1.instantiations = r.instantiations := by
  unfold register
  split <;> rfl

@[simp]
theorem modules_addInstantiation (r : Registry) (parent child : ModuleId) (label : String) :
    (r.addInstantiation parent child label).modules = r.modules := rfl

end Registry

end DesignAtlas
