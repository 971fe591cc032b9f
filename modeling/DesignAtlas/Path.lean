/-!
# Paths

A path keeps the text it was written with, and two paths are compared by what that text names: its
components. Repeated and trailing slashes and inner `.` components name nothing.

* `join` puts an entry below a directory.
* `compare` orders paths component by component, `Same` is agreement of all components.
-/

namespace DesignAtlas

/-- A path as it was written. -/
structure Path where
  /-- The text of the path. -/
  text : String
  deriving DecidableEq, Repr

namespace Path

/-- A step of a path. -/
inductive Component where
  /-- The root of the file system. -/
  | root
  /-- The directory that the path starts from, written out. -/
  | here
  /-- The parent directory. -/
  | up
  /-- The entry of this name. -/
  | name (text : String)
  deriving DecidableEq, Repr

namespace Component

/-- The place of a component's kind in the order of components. -/
def rank : Component → Nat
  | root => 0
  | here => 1
  | up => 2
  | name _ => 3

/-- The name of an ordinary component, and the empty text for the others. -/
def label : Component → String
  | name text => text
  | _ => ""

/-- The order of components: root, `.`, `..`, and then the names in the order of their code
points. -/
def compare : Component → Component → Ordering :=
  compareLex (compareOn rank) (compareOn label)

theorem eq_of_rank_of_label {a b : Component} (hr : a.rank = b.rank) (hl : a.label = b.label) :
    a = b := by
  cases a <;> cases b <;> simp_all [rank, label]

end Component

/-- The pieces of a text between its slashes. There is always one more than there are slashes. -/
def segments : List Char → List (List Char)
  | [] => [[]]
  | c :: rest =>
    if c = '/' then [] :: segments rest
    else
      match segments rest with
      | [] => [[c]]
      | first :: others => (c :: first) :: others

/-- The component that a piece names. The empty piece and `.` name none. -/
def componentOf? (segment : List Char) : Option Component :=
  if segment = [] ∨ segment = ['.'] then none
  else if segment = ['.', '.'] then some .up
  else some (.name (String.ofList segment))

/-- The component that the beginning of a text names: the root, or `.` where it stands alone. -/
def leading (text : List Char) : List Component :=
  if text.head? = some '/' then [.root]
  else if (segments text).head? = some ['.'] then [.here]
  else []

/-- The components of a path, from the outermost one. -/
def components (p : Path) : List Component :=
  leading p.text.toList ++ (segments p.text.toList).filterMap componentOf?

/-- Two paths name the same components. -/
def Same (p q : Path) : Prop :=
  p.components = q.components

instance (p q : Path) : Decidable (p.Same q) :=
  inferInstanceAs (Decidable (p.components = q.components))

/-- The order of paths: component by component, a path before everything below it. -/
def compare (p q : Path) : Ordering :=
  List.compareLex Component.compare p.components q.components

/-- Whether a path stands before another one or names the same components. -/
def isLE (p q : Path) : Bool :=
  (compare p q).isLE

/-- Whether a path starts at the root of the file system. -/
def isAbsolute (p : Path) : Bool :=
  p.text.toList.head? == some '/'

/-- The path that `relative` names, seen from the directory `p`. -/
def join (p : Path) (relative : String) : Path :=
  if relative.toList.head? = some '/' ∨ p.text = "" then ⟨relative⟩
  else if p.text.toList.getLast? = some '/' then ⟨p.text ++ relative⟩
  else ⟨p.text ++ "/" ++ relative⟩

/-- The name of the entry that a path leads to, if its last component is a name. -/
def fileName? (p : Path) : Option String :=
  match p.components.getLast? with
  | some (.name text) => some text
  | _ => none

theorem Same.refl (p : Path) : p.Same p := rfl

theorem Same.symm {p q : Path} (h : p.Same q) : q.Same p := Eq.symm h

theorem Same.trans {p q r : Path} (h₁ : p.Same q) (h₂ : q.Same r) : p.Same r := Eq.trans h₁ h₂

instance : Std.TransCmp Component.compare := by
  unfold Component.compare
  infer_instance

theorem Component.compare_eq_eq_iff {a b : Component} :
    Component.compare a b = .eq ↔ a = b := by
  constructor
  · intro h
    simp only [Component.compare, compareLex, compareOn, Ordering.then_eq_eq,
      Std.compare_eq_iff_eq] at h
    exact Component.eq_of_rank_of_label h.1 h.2
  · rintro rfl
    exact Std.ReflCmp.compare_self

instance : Std.LawfulEqCmp Component.compare where
  eq_of_compare := Component.compare_eq_eq_iff.1

/-- Paths are equal in the order exactly if they name the same components. -/
theorem compare_eq_eq_iff {p q : Path} : compare p q = .eq ↔ p.Same q := by
  unfold compare Same
  exact Std.LawfulEqCmp.compare_eq_iff_eq

end Path

end DesignAtlas
