import DesignAtlas.Workspace.Basic

/-!
# Nodes of folders

Every folder can be kept as a node: an unread one without children and without the mark, a read one
with both. An expansion of the node leaves the node of the expanded folder behind, and the node as
it was if the expansion fails.

* `FolderNode.ofFolder`: the node of a folder. `shown_ofFolder`: it shows that folder.
* `map_fst_readChildren`: the node that is left when the children of a node are read.
* `map_fst_expandAt`: the node that is left when names are followed and the last node is read.
-/

namespace DesignAtlas

mutual

/-- The node of a folder. -/
def FolderNode.ofFolder : Folder → FolderNode
  | .unread name location => .mk name (some location) [] false
  | .read name location children => .mk name location (NodeEntry.ofAll children) true

/-- The entry of a node for an entry of a folder. -/
def NodeEntry.ofFolderEntry : FolderEntry → NodeEntry
  | .file name path => .file name path
  | .folder f => .folder (FolderNode.ofFolder f)

/-- The entries of a node for the entries of a folder. -/
def NodeEntry.ofAll : List FolderEntry → List NodeEntry
  | [] => []
  | entry :: entries => NodeEntry.ofFolderEntry entry :: NodeEntry.ofAll entries

end

mutual

/-- The node of a folder shows that folder. -/
theorem FolderNode.shown_ofFolder : ∀ f : Folder, (FolderNode.ofFolder f).shown = f
  | .unread _ _ => rfl
  | .read name none children =>
    congrArg (Folder.read name none) (NodeEntry.shownAll_ofAll children)
  | .read name (some location) children =>
    congrArg (Folder.read name (some location)) (NodeEntry.shownAll_ofAll children)

theorem NodeEntry.shown_ofFolderEntry :
    ∀ entry : FolderEntry, (NodeEntry.ofFolderEntry entry).shown = entry
  | .file _ _ => rfl
  | .folder f => congrArg FolderEntry.folder (FolderNode.shown_ofFolder f)

theorem NodeEntry.shownAll_ofAll :
    ∀ entries : List FolderEntry, NodeEntry.shownAll (NodeEntry.ofAll entries) = entries
  | [] => rfl
  | entry :: entries =>
    congr (congrArg List.cons (NodeEntry.shown_ofFolderEntry entry))
      (NodeEntry.shownAll_ofAll entries)

end

/-- What is left by a change that may fail. -/
def leftBy {α : Type} (before : α) : Except Failure α → α
  | .ok behind => behind
  | .error _ => before

namespace NodeEntry

theorem ofAll_eq_map (entries : List FolderEntry) : ofAll entries = entries.map ofFolderEntry := by
  induction entries with
  | nil => rfl
  | cons entry entries ih => rw [ofAll, ih, List.map_cons]

/-- A listed entry is put into a node as it is put into a folder. -/
theorem ofFolderEntry_ofEntry (e : Entry) : ofFolderEntry (FolderEntry.ofEntry e) = ofEntry e := by
  rw [FolderEntry.ofEntry, ofEntry]
  split <;> rfl

theorem ofAll_map_ofEntry (entries : List Entry) :
    ofAll (entries.map FolderEntry.ofEntry) = entries.map ofEntry := by
  rw [ofAll_eq_map, List.map_map]
  exact List.map_congr_left fun e _ => ofFolderEntry_ofEntry e

end NodeEntry

namespace FolderNode

@[simp]
theorem name_ofFolder (f : Folder) : (ofFolder f).name = f.name := by
  cases f <;> rfl

@[simp]
theorem location?_ofFolder (f : Folder) : (ofFolder f).location? = f.location? := by
  cases f <;> rfl

/-- The node of an entry has a name if the entry has it. -/
theorem folderNamed?_ofFolderEntry (name : String) (entry : FolderEntry) :
    (NodeEntry.ofFolderEntry entry).folderNamed? name =
      (entry.folderNamed? name).map ofFolder := by
  cases entry with
  | file => rfl
  | folder f =>
    rw [NodeEntry.ofFolderEntry, NodeEntry.folderNamed?, FolderEntry.folderNamed?, name_ofFolder]
    split <;> rfl

theorem eq_folder_of_folderNamed? {name : String} {entry : FolderEntry} {f : Folder}
    (h : entry.folderNamed? name = some f) : entry = .folder f := by
  cases entry with
  | file => cases h
  | folder g =>
    obtain ⟨-, hg⟩ := Option.ite_none_right_eq_some.1 h
    rw [Option.some_inj.1 hg]

/-- Reading the children of a node leaves what an expansion leaves of the folder. -/
theorem fst_readChildren (storage : Storage) (f : Folder) :
    ((ofFolder f).readChildren storage).1 = ofFolder (leftBy f (f.expand storage)) := by
  cases f with
  | read name location children => rfl
  | unread name location =>
    rw [ofFolder, readChildren, Folder.expand]
    cases hlist : storage.list location with
    | error fault => simp [hlist, leftBy, ofFolder]
    | ok entries => simp [hlist, leftBy, ofFolder, NodeEntry.ofAll_map_ofEntry]

section Children

variable {α : Type} {change : FolderNode → Option (FolderNode × α)}
  {change' : Folder → Option (Except Failure Folder)}

/-- Changing the first node of a name leaves the nodes of the entries that the change of the first
folder of that name leaves. -/
theorem map_fst_changeFirst (name : String)
    (hchange : ∀ f, (change (ofFolder f)).map Prod.fst =
      (change' f).map fun changed => ofFolder (leftBy f changed)) (entries : List FolderEntry) :
    (NodeEntry.changeFirst name change (NodeEntry.ofAll entries)).map Prod.fst =
      (Folder.changeChild name change' entries).map fun changed =>
        NodeEntry.ofAll (leftBy entries changed) := by
  induction entries with
  | nil => rfl
  | cons entry entries ih =>
    rw [NodeEntry.ofAll, NodeEntry.changeFirst, Folder.changeChild, folderNamed?_ofFolderEntry]
    -- either this entry is changed, or it stays in front of what the change of the others leaves
    cases hnamed : entry.folderNamed? name with
    | none =>
      have hcons := congrArg (Option.map (NodeEntry.ofFolderEntry entry :: ·)) ih
      simp only [Option.map_none, Option.map_map] at hcons ⊢
      refine hcons.trans (congrArg (Option.map · _) (funext fun changed => ?_))
      cases changed <;> rfl
    | some f =>
      obtain rfl := eq_folder_of_folderNamed? hnamed
      have hcons := congrArg (Option.map fun g => NodeEntry.folder g :: NodeEntry.ofAll entries)
        (hchange f)
      simp only [Option.map_some, Option.map_map] at hcons ⊢
      refine hcons.trans (congrArg (Option.map · _) (funext fun changed => ?_))
      cases changed <;> rfl

end Children

/-- Following names and reading the last node leaves what the expansion of the last folder
leaves. -/
theorem map_fst_expandAt (storage : Storage) (names : List String) (f : Folder) :
    ((ofFolder f).expandAt storage names).map Prod.fst =
      (Folder.expandAt storage names f).map fun changed => ofFolder (leftBy f changed) := by
  induction names generalizing f with
  | nil => exact congrArg some (fst_readChildren storage f)
  | cons next names ih =>
    cases f with
    | unread name location => rfl
    | read name location children =>
      -- the change of the children, put back into the folder
      have hinside := map_fst_changeFirst next ih children
      have houtside := congrArg
        (Option.map fun entries => FolderNode.mk name location entries true) hinside
      simp only [ofFolder, expandAt, Folder.expandAt, Option.map_map, children_mk] at houtside ⊢
      refine houtside.trans (congrArg (Option.map · _) (funext fun changed => ?_))
      cases changed <;> rfl

end FolderNode

end DesignAtlas
