import DesignAtlas.Proofs.Workspace.FolderPlaces
import DesignAtlas.Proofs.Workspace.Refinement

/-!
# Expansions of the buckets

The buckets of a workspace with all folders that were read below them are a forest. An expansion
follows names from a bucket through the children of folders and reads those of the last folder, if
it is not marked as read. The storage may change in any way between two expansions.

* `expandAt_of_leadsTo`, `expandAt_eq_none`: an expansion changes the folder at the place that its
  names lead to, and does nothing if they lead nowhere.
* `FolderNode.IsSound`: a folder that is not marked as read holds nothing and stands for a
  directory. `isSound_shelf_after`: no request leaves another folder behind.
* `Workspace.shelf`: the buckets as one folder. `map_shelf_expand`: an expansion of the workspace is
  one of its shelf.
* `IsExpansion`: what one expansion does. `isExpansion_answer`: every expansion does that.
* `FolderNode.Grown`: what was read stays as it is. `grown_after`: it does under any expansions.
* `isExpansion_after`: any expansion behind any requests and before any other expansions.
-/

namespace DesignAtlas

namespace FolderNode

variable {storage : Storage} {f g h : FolderNode} {position : Nat} {name : String}
  {names : List String} {place : List Nat}

/-! ### The place of an expansion -/

section Children

variable {α : Type} {change : FolderNode → Option (FolderNode × α)} {children : List NodeEntry}

/-- Only the first folder of a name is changed. -/
theorem changeFirst_of_first (hg : children[position]? = some (.folder g))
    (hfirst : ∀ earlier < position, ∀ other, children[earlier]? = some (.folder other) →
      other.name ≠ g.name) :
    NodeEntry.changeFirst g.name change children =
      (change g).map fun changed => (children.set position (.folder changed.1), changed.2) := by
  induction children generalizing position with
  | nil => cases hg
  | cons entry children ih =>
    cases position with
    | zero =>
      obtain rfl : entry = .folder g := Option.some_inj.1 hg
      have hnamed : (NodeEntry.folder g).folderNamed? g.name = some g := if_pos rfl
      simp only [NodeEntry.changeFirst, hnamed, List.set_cons_zero]
    | succ position =>
      have hnamed : entry.folderNamed? g.name = none := by
        cases entry with
        | file name path => rfl
        | folder other => exact if_neg (hfirst 0 (Nat.succ_pos position) other rfl)
      have hrest := ih hg fun earlier hlt other hother =>
        hfirst (earlier + 1) (Nat.succ_lt_succ hlt) other hother
      rw [NodeEntry.changeFirst, hnamed]
      simp only [hrest, Option.map_map]
      rfl

/-- Without a folder of the name nothing is changed. -/
theorem changeFirst_eq_none (hnone : ∀ g, .folder g ∈ children → g.name ≠ name) :
    NodeEntry.changeFirst name change children = none := by
  induction children with
  | nil => rfl
  | cons entry children ih =>
    have hnamed : entry.folderNamed? name = none := by
      cases entry with
      | file name path => rfl
      | folder g => exact if_neg (hnone g List.mem_cons_self)
    have hrest := ih fun g hg => hnone g (List.mem_cons_of_mem entry hg)
    simp only [NodeEntry.changeFirst, hnamed, hrest, Option.map_none]

end Children

/-- Where there is a folder of a name, there is a first one. -/
theorem exists_first_inner? (hg : f.inner? position = some g) :
    ∃ first h, f.inner? first = some h ∧ h.name = g.name ∧
      ∀ earlier < first, ∀ other, f.inner? earlier = some other → other.name ≠ h.name := by
  induction position using Nat.strongRecOn generalizing g with
  | _ position ih =>
    by_cases hearlier : ∃ earlier < position, ∃ other, f.inner? earlier = some other ∧
        other.name = g.name
    · obtain ⟨earlier, hlt, other, hother, hname⟩ := hearlier
      obtain ⟨first, h, hfirst, hh, hleast⟩ := ih earlier hlt hother
      exact ⟨first, h, hfirst, hh.trans hname, hleast⟩
    · exact ⟨position, g, hg, rfl, fun earlier hlt other hother hname =>
        hearlier ⟨earlier, hlt, other, hother, hname⟩⟩

/-- An expansion reads the children of the folder at the place that the names lead to, and puts what
is left of it there. -/
theorem expandAt_of_leadsTo (hplace : f.LeadsTo names place) (hg : f.at? place = some g) :
    f.expandAt storage names =
      some (f.replaceAt place (g.readChildren storage).1, (g.readChildren storage).2) := by
  induction hplace with
  | @here f =>
    obtain rfl := Option.some_inj.1 hg
    rw [replaceAt_nil]
    rfl
  | @into f inner position names place hinner hfirst _ ih =>
    have hrest := ih ((at?_cons_of_inner? hinner place).symm.trans hg)
    have hchild := inner?_eq_some_iff.1 hinner
    rw [expandAt, changeFirst_of_first hchild fun earlier hlt other hother =>
      hfirst earlier hlt other (inner?_eq_some_iff.2 hother), hrest, replaceAt_cons hinner]
    rfl

/-- An expansion does nothing if its names lead nowhere. -/
theorem expandAt_eq_none (hplace : ∀ place, ¬f.LeadsTo names place) :
    f.expandAt storage names = none := by
  induction names generalizing f with
  | nil => exact absurd .here (hplace [])
  | cons name names ih =>
    rw [expandAt, Option.map_eq_none_iff]
    by_cases hname : ∃ g, NodeEntry.folder g ∈ f.children ∧ g.name = name
    · obtain ⟨g, hg, rfl⟩ := hname
      obtain ⟨position, hposition⟩ := List.mem_iff_getElem?.1 hg
      obtain ⟨first, h, hh, hname, hfirst⟩ :=
        exists_first_inner? (inner?_eq_some_iff.2 hposition)
      have hrest : h.expandAt storage names = none := ih fun place hplace' =>
        hplace (first :: place) (hname ▸ .into hh hfirst hplace')
      rw [← hname, changeFirst_of_first (inner?_eq_some_iff.1 hh) fun earlier hlt other hother =>
        hfirst earlier hlt other (inner?_eq_some_iff.2 hother), hrest, Option.map_none]
    · exact changeFirst_eq_none fun g hg hgname => hname ⟨g, hg, hgname⟩

/-! ### Folders that were not read -/

/-- A folder inside which everything that is not marked as read holds nothing and stands for a
directory. -/
def IsSound (f : FolderNode) : Prop :=
  ∀ place g, f.at? place = some g → g.isLoaded = false →
    g.children = [] ∧ ∃ location, g.location? = some location

/-- What stands inside the node of a folder is the node of a folder. -/
theorem exists_eq_ofFolder_of_at? {f : Folder} (hg : (ofFolder f).at? place = some g) :
    ∃ folder, g = ofFolder folder := by
  induction place generalizing f with
  | nil => exact ⟨f, (Option.some_inj.1 hg).symm⟩
  | cons position place ih =>
    obtain ⟨inner, hinner, hg⟩ := at?_cons_eq_some_iff.1 hg
    have hchild := inner?_eq_some_iff.1 hinner
    cases f with
    | unread name location => cases hchild
    | read name location children =>
      rw [ofFolder, children_mk, NodeEntry.ofAll_eq_map, List.getElem?_map,
        Option.map_eq_some_iff] at hchild
      obtain ⟨entry, -, hentry⟩ := hchild
      cases entry with
      | file name path => cases hentry
      | folder folder =>
        cases hentry
        exact ih hg

theorem isSound_ofFolder (f : Folder) : (ofFolder f).IsSound := by
  intro place g hg hloaded
  obtain ⟨folder, rfl⟩ := exists_eq_ofFolder_of_at? hg
  cases folder with
  | unread name location => exact ⟨rfl, location, rfl⟩
  | read name location children => cases hloaded

/-- Nothing stands below a folder that holds nothing. -/
theorem at?_append_of_children_eq_nil (hg : f.at? place = some g) (hchildren : g.children = [])
    {below : List Nat} (hbelow : below ≠ []) : f.at? (place ++ below) = none := by
  induction place generalizing f with
  | nil =>
    obtain rfl := Option.some_inj.1 hg
    obtain ⟨position, below, rfl⟩ := List.exists_cons_of_ne_nil hbelow
    rw [List.nil_append, at?_cons, inner?, hchildren]
    rfl
  | cons position place ih =>
    obtain ⟨inner, hinner, hrest⟩ := at?_cons_eq_some_iff.1 hg
    rw [List.cons_append, at?_cons_of_inner? hinner]
    exact ih hrest

/-! ### Reading the children of a folder -/

theorem readChildren_of_isLoaded (hloaded : f.isLoaded = true) :
    f.readChildren storage = (f, .ok f.children) := by
  rw [readChildren, if_pos hloaded]

theorem readChildren_of_error {location : Path} {fault : FileFault} (hloaded : f.isLoaded = false)
    (hlocation : f.location? = some location) (hlist : storage.list location = .error fault) :
    f.readChildren storage = (f, .error (.file location fault)) := by
  rw [readChildren, if_neg (Bool.eq_false_iff.1 hloaded), hlocation]
  simp only [hlist]

theorem readChildren_of_ok {location : Path} {entries : List Entry} (hloaded : f.isLoaded = false)
    (hlocation : f.location? = some location) (hlist : storage.list location = .ok entries) :
    f.readChildren storage =
      (.mk f.name (some location) (entries.map NodeEntry.ofEntry) true,
        .ok (entries.map NodeEntry.ofEntry)) := by
  rw [readChildren, if_neg (Bool.eq_false_iff.1 hloaded), hlocation]
  simp only [hlist]

/-! ### What was read stays -/

/-- One folder has grown into another one: every folder inside it keeps its place and its title,
and those that are marked as read show the same. -/
def Grown (f g : FolderNode) : Prop :=
  ∀ place inner, f.at? place = some inner → ∃ new, g.at? place = some new ∧
    new.name = inner.name ∧ new.location? = inner.location? ∧
      (inner.isLoaded = true → new.face = inner.face)

theorem Grown.refl (f : FolderNode) : f.Grown f :=
  fun _ inner hinner => ⟨inner, hinner, rfl, rfl, fun _ => rfl⟩

theorem isLoaded_of_face_eq (hface : g.face = f.face) : g.isLoaded = f.isLoaded :=
  congrArg FolderFace.isLoaded hface

theorem Grown.trans (hfg : f.Grown g) (hgh : g.Grown h) : f.Grown h := by
  intro place inner hinner
  obtain ⟨middle, hmiddle, hname, hlocation, hread⟩ := hfg place inner hinner
  obtain ⟨new, hnew, hname', hlocation', hread'⟩ := hgh place middle hmiddle
  refine ⟨new, hnew, hname'.trans hname, hlocation'.trans hlocation, fun h => ?_⟩
  have hface := hread h
  exact (hread' ((isLoaded_of_face_eq hface).trans h)).trans hface

/-- A folder grows when one inside it that is not marked as read and holds nothing is replaced by
one with its title. -/
theorem grown_replaceAt (hg : f.at? place = some g) (hloaded : g.isLoaded = false)
    (hchildren : g.children = []) (hname : h.name = g.name)
    (hlocation : h.location? = g.location?) : f.Grown (f.replaceAt place h) := by
  intro other inner hinner
  by_cases hprefix : place <+: other
  · obtain ⟨below, rfl⟩ := hprefix
    -- nothing stood below the place
    have hbelow : below = [] := by
      by_contra hne
      rw [at?_append_of_children_eq_nil hg hchildren hne] at hinner
      cases hinner
    subst hbelow
    rw [List.append_nil, hg] at hinner
    obtain rfl := Option.some_inj.1 hinner
    refine ⟨h, at?_replaceAt hg [], hname, hlocation, fun hread => ?_⟩
    rw [hloaded] at hread
    cases hread
  · have hface := face_at?_replaceAt hg hname hlocation hprefix
    rw [hinner, Option.map_some] at hface
    obtain ⟨new, hnew, hface⟩ := Option.map_eq_some_iff.1 hface
    exact ⟨new, hnew, congrArg FolderFace.name hface, congrArg FolderFace.location? hface,
      fun _ => hface⟩

end FolderNode

namespace Workspace

variable {w : Workspace} {storage : Storage} {name : String} {names : List String}
  {place : List Nat} {f : FolderNode}

/-! ### The buckets as one folder -/

/-- The buckets of a workspace as the entries of one folder. -/
def shelf (w : Workspace) : FolderNode :=
  .mk "" none (w.buckets.map .folder) true

/-- After any requests everything inside the buckets that is not marked as read holds nothing and
stands for a directory. -/
theorem isSound_shelf_after (root : Path) (requests : List Project.Request) :
    ((ofRoot root).after requests).shelf.IsSound := by
  rw [after_ofRoot]
  let buckets := ((Project.ofRoot root).after requests).buckets
  have hshelf : (ofProject ((Project.ofRoot root).after requests)).shelf =
      .ofFolder (.read "" none (buckets.map .folder)) := by
    rw [shelf, FolderNode.ofFolder, NodeEntry.ofAll_eq_map, ofProject, List.map_map, List.map_map]
    rfl
  rw [hshelf]
  exact FolderNode.isSound_ofFolder _

/-- Changing a bucket is changing an entry of the shelf. -/
theorem changeFirst_map_folder {α : Type} (name : String)
    (change : FolderNode → Option (FolderNode × α)) (buckets : List FolderNode) :
    NodeEntry.changeFirst name change (buckets.map .folder) =
      (changeBucket name change buckets).map fun changed =>
        (changed.1.map NodeEntry.folder, changed.2) := by
  induction buckets with
  | nil => rfl
  | cons f buckets ih =>
    rw [List.map_cons, NodeEntry.changeFirst, NodeEntry.folderNamed?, changeBucket]
    by_cases hname : f.name = name
    · simp only [if_pos hname, Option.map_map]
      rfl
    · simp only [if_neg hname, ih, Option.map_map]
      rfl

/-- Expanding a bucket or a folder below it is expanding a folder inside the shelf. -/
theorem map_shelf_expand (w : Workspace) (storage : Storage) (name : String)
    (names : List String) :
    (w.expand storage (name :: names)).map (fun result => (result.1.shelf, result.2)) =
      w.shelf.expandAt storage (name :: names) := by
  rw [shelf, FolderNode.expandAt, FolderNode.children_mk, changeFirst_map_folder, expand,
    Option.map_map, Option.map_map]
  rfl

/-- An expansion changes nothing but the buckets. -/
theorem eq_of_expand {behind : Workspace} {answer : Except Failure (List NodeEntry)}
    (h : w.expand storage names = some (behind, answer)) :
    behind = { w with buckets := behind.buckets } := by
  cases names with
  | nil => cases h
  | cons name names =>
    obtain ⟨changed, -, hchanged⟩ := Option.map_eq_some_iff.1 h
    cases hchanged
    rfl

theorem eq_of_shelf_eq {behind : Workspace}
    (hbehind : behind = { w with buckets := behind.buckets })
    (hshelf : behind.shelf = w.shelf) : behind = w := by
  have hinjective : Function.Injective NodeEntry.folder := fun _ _ h => by cases h; rfl
  injection hshelf with _ _ hfolders
  rw [hbehind, hinjective.list_map hfolders]

/-! ### One expansion -/

/-- An expansion follows names from a bucket on the storage that it finds. -/
structure Expansion where
  /-- The storage of that moment. -/
  storage : Storage
  /-- The name of the bucket. -/
  bucket : String
  /-- The names of the folders to follow from there. -/
  names : List String

/-- The names that an expansion follows. -/
def Expansion.path (e : Expansion) : List String :=
  e.bucket :: e.names

/-- The request for an expansion. -/
def Expansion.request (e : Expansion) : Project.Request :=
  .expand e.storage e.path

/-- What one expansion does to the forest of the buckets. -/
structure IsExpansion (before : Workspace) (e : Expansion) (behind : Workspace) : Prop where
  /-- If the names lead to no folder, there is nothing to expand and nothing changes. -/
  nowhere : (∀ place, ¬before.shelf.LeadsTo e.path place) →
    before.expand e.storage e.path = none ∧ behind = before
  /-- If they lead to a folder that is marked as read, its children are given and nothing
  changes. -/
  again : ∀ place f, before.shelf.LeadsTo e.path place → before.shelf.at? place = some f →
    f.isLoaded = true →
      before.expand e.storage e.path = some (before, .ok f.children) ∧ behind = before
  /-- If the listing of another folder fails, the expansion fails and nothing changes. -/
  failing : ∀ place f location fault, before.shelf.LeadsTo e.path place →
    before.shelf.at? place = some f → f.isLoaded = false → f.location? = some location →
      e.storage.list location = .error fault →
        before.expand e.storage e.path = some (before, .error (.file location fault)) ∧
          behind = before
  /-- If it succeeds, the folder is marked as read and holds what is listed, its directories not
  marked as read and without children. The folders at all other places show the same, and so does
  everything apart from the buckets. -/
  reading : ∀ place f location entries, before.shelf.LeadsTo e.path place →
    before.shelf.at? place = some f → f.isLoaded = false → f.location? = some location →
      e.storage.list location = .ok entries →
        let children := entries.map fun entry =>
          if entry.isDirectory then
            .folder (.mk (entry.path.fileName?.getD entry.path.text) (some entry.path) [] false)
          else .file entry.name entry.path
        before.expand e.storage e.path = some (behind, .ok children) ∧
          behind.shelf.at? place = some (.mk f.name (some location) children true) ∧
          behind = { before with buckets := behind.buckets } ∧
          ∀ other, ¬place <+: other → (behind.shelf.at? other).map FolderNode.face =
            (before.shelf.at? other).map FolderNode.face

/-- An expansion of a workspace reads the children of the folder at the place that the names lead
to, and puts what is left of it there. -/
theorem exists_expand_of_leadsTo (storage : Storage)
    (hplace : w.shelf.LeadsTo (name :: names) place)
    (hf : w.shelf.at? place = some f) :
    ∃ behind, w.expand storage (name :: names) = some (behind, (f.readChildren storage).2) ∧
      behind = { w with buckets := behind.buckets } ∧
        behind.shelf = w.shelf.replaceAt place (f.readChildren storage).1 := by
  have hshelf := map_shelf_expand w storage name names
  rw [FolderNode.expandAt_of_leadsTo hplace hf, Option.map_eq_some_iff] at hshelf
  obtain ⟨⟨behind, answer⟩, hexpand, hresult⟩ := hshelf
  obtain ⟨hbehind, hanswer⟩ := Prod.mk.inj hresult
  rw [← hanswer]
  exact ⟨behind, hexpand, eq_of_expand hexpand, hbehind⟩

/-- A folder that is read and left as it is leaves everything as it is. -/
theorem expand_of_readChildren_eq {answer : Except Failure (List NodeEntry)}
    (hplace : w.shelf.LeadsTo (name :: names) place) (hf : w.shelf.at? place = some f)
    (hread : f.readChildren storage = (f, answer)) :
    w.expand storage (name :: names) = some (w, answer) := by
  obtain ⟨behind, hexpand, hbehind, hshelf⟩ := exists_expand_of_leadsTo storage hplace hf
  rw [hread, FolderNode.replaceAt_self hf] at hshelf
  rw [hexpand, hread, eq_of_shelf_eq hbehind hshelf]

theorem expand_of_not_leadsTo (hplace : ∀ place, ¬w.shelf.LeadsTo (name :: names) place) :
    w.expand storage (name :: names) = none := by
  have hshelf := map_shelf_expand w storage name names
  rwa [FolderNode.expandAt_eq_none hplace, Option.map_eq_none_iff] at hshelf

theorem answer_of_expand {behind : Workspace} {answer : Except Failure (List NodeEntry)}
    {e : Expansion} (hexpand : w.expand e.storage e.path = some (behind, answer)) :
    w.answer e.request = behind := by
  rw [Expansion.request, Workspace.answer, hexpand]
  rfl

theorem isExpansion_answer (w : Workspace) (e : Expansion) :
    IsExpansion w e (w.answer e.request) where
  nowhere hplace := by
    have hnone : w.expand e.storage e.path = none := expand_of_not_leadsTo hplace
    exact ⟨hnone, by rw [Expansion.request, answer, hnone]; rfl⟩
  again place f hplace hf hloaded := by
    have hexpand : w.expand e.storage e.path = some (w, .ok f.children) :=
      expand_of_readChildren_eq hplace hf (FolderNode.readChildren_of_isLoaded hloaded)
    exact ⟨hexpand, answer_of_expand hexpand⟩
  failing place f location fault hplace hf hloaded hlocation hlist := by
    have hexpand : w.expand e.storage e.path = some (w, .error (.file location fault)) :=
      expand_of_readChildren_eq hplace hf
        (FolderNode.readChildren_of_error hloaded hlocation hlist)
    exact ⟨hexpand, answer_of_expand hexpand⟩
  reading place f location entries hplace hf hloaded hlocation hlist := by
    obtain ⟨behind, hexpand, hbehind, hshelf⟩ := exists_expand_of_leadsTo e.storage hplace hf
    let listed : FolderNode :=
      .mk f.name (some location) (entries.map NodeEntry.ofEntry) true
    have hread : f.readChildren e.storage = (listed, .ok listed.children) :=
      FolderNode.readChildren_of_ok hloaded hlocation hlist
    have hname : listed.name = f.name := rfl
    have hlocation' : listed.location? = f.location? := hlocation.symm
    rw [hread] at hexpand hshelf
    rw [answer_of_expand hexpand]
    refine ⟨hexpand, ?_, hbehind, fun other => ?_⟩
    · rw [hshelf]
      exact FolderNode.at?_replaceAt_self hf
    · rw [hshelf]
      exact FolderNode.face_at?_replaceAt hf hname hlocation'

/-! ### Any expansions -/

theorem after_append (w : Workspace) (requests others : List Project.Request) :
    w.after (requests ++ others) = (w.after requests).after others :=
  List.foldl_append

/-- One expansion lets the forest grow. -/
theorem grown_answer (hsound : w.shelf.IsSound) (e : Expansion) :
    w.shelf.Grown (w.answer e.request).shelf := by
  have hstep := isExpansion_answer w e
  by_cases hplace : ∃ place, w.shelf.LeadsTo e.path place
  · obtain ⟨place, hplace⟩ := hplace
    obtain ⟨f, hf⟩ := hplace.exists_at?
    cases hloaded : f.isLoaded with
    | true =>
      rw [(hstep.again place f hplace hf hloaded).2]
      exact FolderNode.Grown.refl _
    | false =>
      obtain ⟨hchildren, location, hlocation⟩ := hsound place f hf hloaded
      cases hlist : e.storage.list location with
      | error fault =>
        rw [(hstep.failing place f location fault hplace hf hloaded hlocation hlist).2]
        exact FolderNode.Grown.refl _
      | ok entries =>
        obtain ⟨behind, hexpand, -, hshelf⟩ :=
          exists_expand_of_leadsTo e.storage hplace hf
        rw [FolderNode.readChildren_of_ok hloaded hlocation hlist] at hshelf
        rw [answer_of_expand hexpand, hshelf]
        exact FolderNode.grown_replaceAt hf hloaded hchildren rfl hlocation.symm
  · rw [(hstep.nowhere fun place h => hplace ⟨place, h⟩).2]
    exact FolderNode.Grown.refl _

/-- Behind any requests, any expansions let the forest grow. -/
theorem grown_after (root : Path) (requests : List Project.Request)
    (expansions : List Expansion) :
    ((ofRoot root).after requests).shelf.Grown
      ((ofRoot root).after (requests ++ expansions.map Expansion.request)).shelf := by
  induction expansions generalizing requests with
  | nil =>
    rw [List.map_nil, List.append_nil]
    exact FolderNode.Grown.refl _
  | cons e expansions ih =>
    have hstep := grown_answer (isSound_shelf_after root requests) e
    have hrest := ih (requests ++ [e.request])
    rw [after_append] at hrest
    rw [List.map_cons, List.append_cons]
    exact hstep.trans hrest

/-- An expansion behind any requests and before any other expansions, whatever becomes of the
storage meanwhile: a folder that is not marked as read holds nothing; an expansion that fails
changes nothing; one that succeeds on a folder that is not marked puts into it what is listed at
that moment and changes no other folder; on a folder that is marked it changes nothing. Later
expansions leave every marked folder as it is. -/
theorem isExpansion_after (root : Path) (requests : List Project.Request) (e : Expansion)
    (later : List Expansion) :
    let before := (ofRoot root).after requests
    let behind := before.answer e.request
    let final := behind.after (later.map Expansion.request)
    (∀ place f, before.shelf.at? place = some f → f.isLoaded = false →
        f.children = [] ∧ ∃ location, f.location? = some location) ∧
      IsExpansion before e behind ∧ behind.shelf.Grown final.shelf := by
  intro before behind final
  refine ⟨isSound_shelf_after root requests, isExpansion_answer before e, ?_⟩
  have hgrown := grown_after root (requests ++ [e.request]) later
  rw [after_append (ofRoot root) (requests ++ [e.request]), after_append] at hgrown
  exact hgrown

end Workspace

end DesignAtlas
