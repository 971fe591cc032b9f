import DesignAtlas.Design.Registry

/-!
# The instantiation hierarchy

The hierarchy of a design is an outline: every root module with its instances below it, and their
instances below them. A module is expanded once, on the first line that shows it; later lines say
whether it stands on the way to the line itself or was shown above.
-/

namespace DesignAtlas

/-- What a line of the hierarchy says about the module it shows. -/
inductive Marker where
  /-- The line shows the module for the first time, or the module has nothing below it. -/
  | none
  /-- The module stands on the way from the root to this line. -/
  | recursive
  /-- The module was expanded on an earlier line. -/
  | shownAbove
  deriving DecidableEq, Repr

/-- One line of the hierarchy. -/
structure HierarchyLine where
  /-- The number of modules above the one shown. -/
  depth : Nat
  /-- The name of the instance, or nothing for a root. -/
  label : Option String
  /-- The module shown. -/
  id : ModuleId
  /-- What the line says about the module. -/
  marker : Marker
  deriving DecidableEq, Repr

/-- A line still to be written. -/
structure Visit where
  /-- The name of the instance, or nothing for a root. -/
  label : Option String
  /-- The module to show. -/
  id : ModuleId
  /-- The modules above it, the nearest first. -/
  ancestors : List ModuleId
  deriving DecidableEq, Repr

/-- The line of a visit. -/
def Visit.line (v : Visit) (marker : Marker) : HierarchyLine :=
  ⟨v.ancestors.length, v.label, v.id, marker⟩

namespace Registry

/-- The instances in a module, sorted by the names of the modules they are instances of. Instances
of modules with one name keep the order they were recorded in. -/
def sortedSubmodules (r : Registry) (id : ModuleId) : List (String × ModuleId) :=
  (r.submodules id).mergeSort fun a b => r.nameOf a.2 ≤ r.nameOf b.2

/-- The roots, sorted by name. Roots of one name keep the order of their ids. -/
def sortedRoots (r : Registry) : List ModuleId :=
  r.roots.mergeSort fun a b => r.nameOf a ≤ r.nameOf b

/-- The visits that expanding a module brings. -/
def visitsBelow (r : Registry) (v : Visit) : List Visit :=
  (r.sortedSubmodules v.id).map fun instantiated =>
    ⟨some instantiated.1, instantiated.2, v.id :: v.ancestors⟩

/-- The lines of the pending visits, when only the modules of `unexpanded` may still be
expanded. -/
def outline (r : Registry) (unexpanded : List ModuleId) (pending : List Visit) :
    List HierarchyLine :=
  match pending with
  | [] => []
  | v :: pending =>
    if v.id ∈ v.ancestors then v.line .recursive :: outline r unexpanded pending
    else if r.submodules v.id = [] then v.line .none :: outline r unexpanded pending
    else if v.id ∈ unexpanded then
      v.line .none :: outline r (unexpanded.erase v.id) (r.visitsBelow v ++ pending)
    else v.line .shownAbove :: outline r unexpanded pending
termination_by (unexpanded.length, pending.length)
decreasing_by
  · exact Prod.Lex.right _ (Nat.lt_succ_self _)
  · exact Prod.Lex.right _ (Nat.lt_succ_self _)
  · refine Prod.Lex.left _ _ ?_
    rw [List.length_erase_of_mem ‹_›]
    exact Nat.sub_one_lt_of_lt (List.length_pos_of_mem ‹_›)
  · exact Prod.Lex.right _ (Nat.lt_succ_self _)

/-- The hierarchy of a design: the outlines of its roots, sorted by name. -/
def hierarchy (r : Registry) : List HierarchyLine :=
  outline r r.ids (r.sortedRoots.map fun id => ⟨none, id, []⟩)

end Registry

end DesignAtlas
