import DesignAtlas.Design.Registry
import DesignAtlas.Source.Instance

/-!
# Linking modules

The instantiations of a design are found by looking for the name of every registered module in
every body. A name that several files define stands for all of its definitions.
-/

namespace DesignAtlas.Registry

/-- The instances in a body with the modules they are instances of: by the registration of the
module's name, then by place in the body, then by definition of the name. -/
def linksIn (r : Registry) (body : String) : List (String × ModuleId) :=
  r.names.flatMap fun name =>
    (Source.instanceNames body name).flatMap fun label =>
      (r.idsNamed name).map fun child => (label, child)

/-- The instantiations that the body of one module holds. -/
def foundIn (r : Registry) (parent : ModuleId) : List Instantiation :=
  match r.get? parent with
  | some m => (r.linksIn m.body).map fun link => ⟨parent, link.2, link.1⟩
  | none => []

/-- The instantiations that the bodies of all modules hold, in the order of the modules. -/
def found (r : Registry) : List Instantiation :=
  r.ids.flatMap r.foundIn

/-- Record instantiations one behind the other, and count them. -/
def record (r : Registry) (instantiations : List Instantiation) : Registry × Nat :=
  instantiations.foldl
    (fun recorded i => (recorded.1.addInstantiation i.parent i.child i.label, recorded.2 + 1))
    (r, 0)

/-- Record the instantiations that the bodies hold. -/
def link (r : Registry) : Registry :=
  { r with instantiations := r.instantiations ++ r.found }

@[simp]
theorem modules_link (r : Registry) : r.link.modules = r.modules := rfl

end DesignAtlas.Registry
