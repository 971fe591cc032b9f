import DesignAtlas.Workspace.FolderNode
import Mathlib.Data.List.Infix

/-!
# Places in a folder

A folder inside a folder stands at a place: the positions of the entries that lead to it from the
outside. Two folders of one name stand at different places, so a place tells more than names do.

* `FolderNode.at?`: the folder at a place.
* `FolderNode.face`: what a folder shows apart from what stands inside its folders.
* `FolderNode.replaceAt`: a folder with another one put at a place.
* `at?_replaceAt`, `face_at?_replaceAt`: what stands at the other places then.
* `FolderNode.LeadsTo`: names lead to a place, each of them to the first folder of that name.
-/

namespace DesignAtlas

/-- What an entry of a folder shows: its name, where it stands, and whether it is a folder. -/
structure EntryTitle where
  /-- The name of the entry. -/
  name : String
  /-- The path of the entry. A category has none. -/
  location? : Option Path
  /-- Whether the entry is a folder. -/
  isFolder : Bool
  deriving DecidableEq, Repr

/-- What a folder shows apart from what stands inside its folders. -/
structure FolderFace where
  /-- The name of the folder. -/
  name : String
  /-- The directory that the folder stands for. -/
  location? : Option Path
  /-- Whether it is marked as read. -/
  isLoaded : Bool
  /-- What its entries show. -/
  titles : List EntryTitle
  deriving DecidableEq, Repr

namespace NodeEntry

/-- What an entry shows. -/
def title : NodeEntry → EntryTitle
  | file name path => ⟨name, some path, false⟩
  | folder f => ⟨f.name, f.location?, true⟩

/-- The folder that an entry may be. -/
def folder? : NodeEntry → Option FolderNode
  | file _ _ => none
  | folder f => some f

theorem folder?_eq_some_iff {entry : NodeEntry} {f : FolderNode} :
    entry.folder? = some f ↔ entry = folder f := by
  cases entry <;> simp [folder?]

end NodeEntry

namespace FolderNode

/-- What a folder shows. -/
def face (f : FolderNode) : FolderFace :=
  ⟨f.name, f.location?, f.isLoaded, f.children.map NodeEntry.title⟩

/-- The folder at a position directly inside a folder. -/
def inner? (f : FolderNode) (position : Nat) : Option FolderNode :=
  f.children[position]?.bind NodeEntry.folder?

/-- The folder at a place inside a folder. -/
def at? (f : FolderNode) : (place : List Nat) → Option FolderNode
  | [] => some f
  | position :: place => (f.inner? position).bind fun g => g.at? place

/-- A folder with another one put at a position directly inside it. -/
def setInner (f : FolderNode) (position : Nat) (g : FolderNode) : FolderNode :=
  f.withChildren (f.children.set position (.folder g))

/-- A folder with another one put at a place inside it. -/
def replaceAt (f : FolderNode) (place : List Nat) (g : FolderNode) : FolderNode :=
  match place with
  | [] => g
  | position :: place =>
    match f.inner? position with
    | none => f
    | some inner => f.setInner position (inner.replaceAt place g)

/-- Names lead from a folder to a place inside it, each of them to the first folder of that name
directly inside the last one. -/
inductive LeadsTo : FolderNode → (names : List String) → (place : List Nat) → Prop
  /-- No names lead nowhere else. -/
  | here {f : FolderNode} : LeadsTo f [] []
  /-- A name leads to the first folder of that name. -/
  | into {f g : FolderNode} {position : Nat} {names : List String} {place : List Nat} :
      f.inner? position = some g →
        (∀ earlier < position, ∀ other, f.inner? earlier = some other → other.name ≠ g.name) →
        LeadsTo g names place → LeadsTo f (g.name :: names) (position :: place)

variable {f g inner : FolderNode} {position other : Nat} {place : List Nat}

/-! ### Positions directly inside a folder -/

theorem inner?_eq_some_iff :
    f.inner? position = some g ↔ f.children[position]? = some (.folder g) := by
  rw [inner?, Option.bind_eq_some_iff]
  constructor
  · rintro ⟨entry, hentry, hg⟩
    rw [hentry, NodeEntry.folder?_eq_some_iff.1 hg]
  · intro h
    exact ⟨_, h, rfl⟩

@[simp]
theorem children_setInner (f : FolderNode) (position : Nat) (g : FolderNode) :
    (f.setInner position g).children = f.children.set position (.folder g) := rfl

theorem inner?_setInner_self (h : f.inner? position = some inner) :
    (f.setInner position g).inner? position = some g := by
  have hlt := (List.getElem?_eq_some_iff.1 (inner?_eq_some_iff.1 h)).1
  rw [inner?_eq_some_iff, children_setInner]
  exact List.getElem?_set_self hlt

theorem inner?_setInner_of_ne (hne : other ≠ position) :
    (f.setInner position g).inner? other = f.inner? other := by
  rw [inner?, inner?, children_setInner, List.getElem?_set_ne hne.symm]

/-- A folder shows the same after another one was put inside it that shows the same title. -/
theorem face_setInner (h : f.inner? position = some inner) (hname : g.name = inner.name)
    (hlocation : g.location? = inner.location?) : (f.setInner position g).face = f.face := by
  have htitle : (NodeEntry.folder g).title = (NodeEntry.folder inner).title := by
    rw [NodeEntry.title, NodeEntry.title, hname, hlocation]
  have htitles : (f.children.set position (.folder g)).map NodeEntry.title =
      f.children.map NodeEntry.title := by
    rw [List.map_set, htitle, ← List.map_set]
    obtain ⟨hlt, hget⟩ := List.getElem?_eq_some_iff.1 (inner?_eq_some_iff.1 h)
    rw [← hget, List.set_getElem_self]
  exact congrArg (FolderFace.mk f.name f.location? f.isLoaded) htitles

theorem setInner_self (h : f.inner? position = some g) : f.setInner position g = f := by
  obtain ⟨hlt, hget⟩ := List.getElem?_eq_some_iff.1 (inner?_eq_some_iff.1 h)
  have hsame : f.children.set position (.folder g) = f.children := by
    rw [← hget]
    exact List.set_getElem_self hlt
  rw [setInner, hsame, withChildren_children]

/-! ### Places -/

@[simp]
theorem at?_nil (f : FolderNode) : f.at? [] = some f := rfl

theorem at?_cons (f : FolderNode) (position : Nat) (place : List Nat) :
    f.at? (position :: place) = (f.inner? position).bind fun g => g.at? place := rfl

theorem at?_cons_eq_some_iff : f.at? (position :: place) = some g ↔
    ∃ h, f.inner? position = some h ∧ h.at? place = some g := by
  rw [at?_cons, Option.bind_eq_some_iff]

theorem at?_cons_of_inner? (h : f.inner? position = some inner) (place : List Nat) :
    f.at? (position :: place) = inner.at? place := by
  rw [at?_cons, h, Option.bind_some]

@[simp]
theorem replaceAt_nil (f g : FolderNode) : f.replaceAt [] g = g := by
  rw [replaceAt]

theorem replaceAt_cons (h : f.inner? position = some inner) (place : List Nat) (g : FolderNode) :
    f.replaceAt (position :: place) g = f.setInner position (inner.replaceAt place g) := by
  rw [replaceAt, h]

/-- Putting a folder where it stands changes nothing. -/
theorem replaceAt_self (h : f.at? place = some g) : f.replaceAt place g = f := by
  induction place generalizing f with
  | nil => exact (Option.some_inj.1 h).symm
  | cons position place ih =>
    obtain ⟨inner, hinner, hg⟩ := at?_cons_eq_some_iff.1 h
    rw [replaceAt_cons hinner, ih hg, setInner_self hinner]

/-- The title of a folder stays the same if one with the same title is put at a place. -/
theorem title_replaceAt (h : f.at? place = some inner) (hname : g.name = inner.name)
    (hlocation : g.location? = inner.location?) :
    (f.replaceAt place g).name = f.name ∧ (f.replaceAt place g).location? = f.location? := by
  cases place with
  | nil =>
    obtain rfl := Option.some_inj.1 h
    rw [replaceAt_nil]
    exact ⟨hname, hlocation⟩
  | cons position place =>
    obtain ⟨outer, houter, -⟩ := at?_cons_eq_some_iff.1 h
    rw [replaceAt_cons houter]
    exact ⟨rfl, rfl⟩

/-- What stands at and below the place is what was put there. -/
theorem at?_replaceAt (h : f.at? place = some inner) (below : List Nat) :
    (f.replaceAt place g).at? (place ++ below) = g.at? below := by
  induction place generalizing f with
  | nil => rw [replaceAt_nil, List.nil_append]
  | cons position place ih =>
    obtain ⟨outer, houter, hinner⟩ := at?_cons_eq_some_iff.1 h
    rw [List.cons_append, replaceAt_cons houter, at?_cons_of_inner? (inner?_setInner_self houter)]
    exact ih hinner

theorem at?_replaceAt_self (h : f.at? place = some inner) :
    (f.replaceAt place g).at? place = some g := by
  simpa using at?_replaceAt h []

/-- At every other place the folder shows the same, if what was put there has the title of what
stood there. -/
theorem face_at?_replaceAt (h : f.at? place = some inner) (hname : g.name = inner.name)
    (hlocation : g.location? = inner.location?) {other : List Nat} (hother : ¬place <+: other) :
    ((f.replaceAt place g).at? other).map face = (f.at? other).map face := by
  induction place generalizing f other with
  | nil => exact absurd List.nil_prefix hother
  | cons position place ih =>
    obtain ⟨outer, houter, hinner⟩ := at?_cons_eq_some_iff.1 h
    obtain ⟨hname', hlocation'⟩ := title_replaceAt hinner hname hlocation
    rw [replaceAt_cons houter]
    cases other with
    | nil =>
      rw [at?_nil, at?_nil, Option.map_some, Option.map_some,
        face_setInner houter hname' hlocation']
    | cons elsewhere other =>
      by_cases heq : elsewhere = position
      · -- both places lead into the same folder
        subst heq
        rw [at?_cons_of_inner? (inner?_setInner_self houter), at?_cons_of_inner? houter]
        exact ih hinner fun hprefix => hother ((List.prefix_cons_inj elsewhere).2 hprefix)
      · rw [at?_cons, inner?_setInner_of_ne heq, ← at?_cons]

/-! ### Names that lead to places -/

variable {names : List String}

/-- What names lead to is there. -/
theorem LeadsTo.exists_at? (h : f.LeadsTo names place) : ∃ g, f.at? place = some g := by
  induction h with
  | here => exact ⟨_, rfl⟩
  | into hinner _ _ ih =>
    obtain ⟨g, hg⟩ := ih
    exact ⟨g, at?_cons_eq_some_iff.2 ⟨_, hinner, hg⟩⟩

end FolderNode

end DesignAtlas
