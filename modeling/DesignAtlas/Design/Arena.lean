import DesignAtlas.Design.Linking

/-!
# Arenas

An arena is a registry as it is kept while it is filled. Besides the modules and the instantiations
it holds an index of the keys and a list of the names, so that neither has to be searched for among
the modules. Every registration keeps them in step with the modules.

* `register` looks a key up in the index.
* `submodules` takes the instantiations of a module from the graph, which gives the newest one
  first, and sorts them.
* `resolveAll` looks for the names in the list in every body, and `apply` records what was found.
-/

namespace DesignAtlas

/-- A registry with an index of its keys and a list of its names. -/
structure Arena extends Registry where
  /-- The keys that modules were registered under, with the ids of the modules. -/
  index : List ((String × List Path.Component) × ModuleId)
  /-- The names of the modules, each once, in the order of their first registration. -/
  names : List String
  deriving DecidableEq, Repr

namespace Arena

/-- The arena without modules. -/
def empty : Arena :=
  ⟨Registry.empty, [], []⟩

/-- Add a module. A module whose key is in the index takes the place that is noted there. Gives the
module's id along with the arena. -/
def register (a : Arena) (m : Module) : Arena × ModuleId :=
  match a.index.lookup m.key with
  | some id => ({ a with modules := a.modules.set id m }, id)
  | none =>
    let names := if a.names.contains m.name then a.names else a.names ++ [m.name]
    let id := a.modules.length
    ({ a with modules := a.modules ++ [m], index := a.index ++ [(m.key, id)], names := names }, id)

/-- Record that `parent` instantiates `child` under the name `label`. -/
def addInstantiation (a : Arena) (parent child : ModuleId) (label : String) : Arena :=
  { a with instantiations := a.instantiations ++ [⟨parent, child, label⟩] }

/-- The instantiations that a module makes, each with its place among all of them. The newest one
comes first. -/
def outgoing (a : Arena) (id : ModuleId) : List (Instantiation × Nat) :=
  (a.instantiations.zipIdx.filter fun edge => edge.1.parent == id).reverse

/-- The instances in a module, with the modules they are instances of, in the order recorded. -/
def submodules (a : Arena) (id : ModuleId) : List (String × ModuleId) :=
  ((a.outgoing id).mergeSort fun edge edge' => edge.2 ≤ edge'.2).map fun edge =>
    (edge.1.label, edge.1.child)

/-- The instances in a body with the modules they are instances of: by the name in the list, then
by place in the body, then by definition of the name. -/
def linksIn (a : Arena) (body : String) : List (String × ModuleId) :=
  a.names.flatMap fun name =>
    (Source.instanceNames body name).flatMap fun label =>
      (a.idsNamed name).map fun child => (label, child)

/-- The links that the bodies of all modules hold, module by module. -/
def resolveAll (a : Arena) : List (ModuleId × List (String × ModuleId)) :=
  a.modules.zipIdx.map fun entry => (entry.2, a.linksIn entry.1.body)

/-- Record the links of every module one behind the other, and count them. -/
def apply (a : Arena) (resolved : List (ModuleId × List (String × ModuleId))) : Arena × Nat :=
  resolved.foldl
    (fun recorded found =>
      found.2.foldl
        (fun recorded link =>
          (recorded.1.addInstantiation found.1 link.2 link.1, recorded.2 + 1))
        recorded)
    (a, 0)

end Arena

end DesignAtlas
