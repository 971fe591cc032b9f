import DesignAtlas.Design.Registry

/-!
# Compile sets

The files that have to be compiled together for one module: its own file and, as a compiler reads
whole files, the files of everything that any module in one of these files instantiates.

* `compileSet` walks from file to file and takes each one once, so it ends on cycles too. It gives
  the files in the order of paths.
-/

namespace DesignAtlas.Registry

/-- The paths of the modules that the modules in a file instantiate. -/
def neededBy (r : Registry) (file : Path) : List Path :=
  (r.definedIn file).flatMap fun id =>
    (r.submodules id).filterMap fun instantiated => (r.get? instantiated.2).map Module.path

/-- Whether some path of a list names the same components. -/
def holdsPath (paths : List Path) (path : Path) : Bool :=
  paths.any fun known => known.Same path

/-- The list without the paths that name the same components as `path`. -/
def withoutPath (paths : List Path) (path : Path) : List Path :=
  paths.filter fun known => ¬known.Same path

theorem length_withoutPath_lt {paths : List Path} {path : Path} (h : holdsPath paths path = true) :
    (withoutPath paths path).length < paths.length := by
  obtain ⟨known, hm, hs⟩ := List.any_eq_true.1 h
  rw [withoutPath, List.length_filter_lt_length_iff_exists]
  exact ⟨known, hm, by simpa using hs⟩

/-- The files that a walk takes when `pending` files are still to be visited and only those of
`untaken` may be taken: each pending file that can be taken is taken and put before the walk, and
the files it needs are visited before the rest. -/
def takeFiles (r : Registry) (untaken pending : List Path) : List Path :=
  match pending with
  | [] => []
  | file :: pending =>
    if holdsPath untaken file then
      file :: takeFiles r (withoutPath untaken file) (r.neededBy file ++ pending)
    else takeFiles r untaken pending
termination_by (untaken.length, pending.length)
decreasing_by
  · exact Prod.Lex.left _ _ (length_withoutPath_lt ‹_›)
  · exact Prod.Lex.right _ (Nat.lt_succ_self _)

/-- The files to compile for a module, in the order of paths. No file is listed twice, and each
stands as it was first met. -/
def compileSet (r : Registry) (id : ModuleId) : List Path :=
  match r.get? id with
  | some m => (takeFiles r (r.modules.map Module.path) [m.path]).mergeSort Path.isLE
  | none => []

end DesignAtlas.Registry
