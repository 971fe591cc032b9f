import DesignAtlas.Proofs.Workspace.Listed
import DesignAtlas.Storage.Disk
import Mathlib.Data.String.Basic

/-!
# Disks as trees

On a disk no two nodes stand at one address, and an address is made of names that entries can have.
So the entries of a directory have different names, and what is listed are these entries. Whatever
is put on a disk leaves it so.

* `Disk.IsTree`: the addresses of a disk are different and made of names of entries.
* `isFaithful_storage`: such a disk lists the entries of its directories.
* `isTree_ofSystem`: a disk with nothing on it is a tree.
* `IsTree.put`, `IsTree.fill`, `IsTree.remove`, `IsTree.setMode`: changes that keep a disk a tree.
* `isNamed_of_walk`: a walk ends at an address that is made of names of entries.
* `IsTree.write`, `IsTree.install`: what is written and what is put there keep a disk a tree.
-/

namespace DesignAtlas.Disk

/-- An address is made of names that entries can have. -/
def IsNamed (address : Address) : Prop :=
  ∀ name ∈ address, IsEntryName name

/-- The addresses of a disk are different and made of names of entries. -/
structure IsTree (d : Disk) : Prop where
  /-- No two nodes stand at one address. -/
  nodes_nodup : (d.nodes.map Prod.fst).Nodup
  /-- No two nodes of the system stand at one address. -/
  system_nodup : (d.system.map Prod.fst).Nodup
  /-- The addresses of the nodes are made of names of entries. -/
  isNamed_nodes : ∀ address ∈ d.nodes.map Prod.fst, IsNamed address
  /-- The addresses of the nodes of the system are made of names of entries. -/
  isNamed_system : ∀ address ∈ d.system.map Prod.fst, IsNamed address
  /-- The address of the working directory is made of names of entries. -/
  isNamed_workingDirectory : IsNamed d.workingDirectory

variable {d : Disk} {address : Address} {p : Path} {name : String}

/-! ### Listings -/

/-- The name and the node of what stands directly inside an address. -/
def namedIn (address : Address) (known : Address × DiskNode) : Option (String × DiskNode) :=
  match known.1.getLast? with
  | some name => if known.1.dropLast = address then some (name, known.2) else none
  | none => none

theorem inside_eq (d : Disk) (address : Address) : d.inside address =
    d.nodes.filterMap (namedIn address) ++
      (d.system.filterMap (namedIn address)).filter fun known =>
        ((d.nodes.filterMap (namedIn address)).lookup known.1).isNone :=
  rfl

theorem fst_eq_of_namedIn {known : Address × DiskNode} {named : String × DiskNode}
    (h : namedIn address known = some named) : known.1 = address ++ [named.1] := by
  rw [namedIn] at h
  split at h
  · next name hlast =>
    obtain ⟨hdrop, hnamed⟩ := Option.ite_none_right_eq_some.1 h
    obtain ⟨front, hfront⟩ := List.getLast?_eq_some_iff.1 hlast
    cases hnamed
    rw [hfront, List.dropLast_concat] at hdrop
    rw [hfront, hdrop]
  · cases h

/-- The names directly inside an address are different if the addresses are. -/
theorem nodup_namedIn {nodes : List (Address × DiskNode)} (h : (nodes.map Prod.fst).Nodup)
    (address : Address) : ((nodes.filterMap (namedIn address)).map Prod.fst).Nodup := by
  refine List.pairwise_map.2 (List.pairwise_filterMap.2 ?_)
  refine (List.pairwise_map.1 h).imp fun {known known'} hne named hnamed named' hnamed' heq => ?_
  refine hne ?_
  rw [fst_eq_of_namedIn hnamed, fst_eq_of_namedIn hnamed', heq]

/-- The names directly inside a directory are different. -/
theorem IsTree.nodup_inside (h : d.IsTree) (address : Address) :
    ((d.inside address).map Prod.fst).Nodup := by
  rw [inside_eq, List.map_append]
  refine List.nodup_append'.2 ⟨nodup_namedIn h.nodes_nodup address,
    (nodup_namedIn h.system_nodup address).sublist (List.filter_sublist.map _), ?_⟩
  -- a name of the system is left out if it is that of another node
  intro name hown hsystem
  obtain ⟨own, hmem, rfl⟩ := List.mem_map.1 hown
  obtain ⟨known, hknown, hname⟩ := List.mem_map.1 hsystem
  have hnone := Option.isNone_iff_eq_none.1 (List.mem_filter.1 hknown).2
  have hother := List.lookup_eq_none_iff.1 hnone own hmem
  rw [hname, bne_self_eq_false] at hother
  cases hother

theorem IsTree.isEntryName_inside (h : d.IsTree) {named : String × DiskNode}
    (hnamed : named ∈ d.inside address) : IsEntryName named.1 := by
  have hknown : ∃ known ∈ d.nodes ++ d.system, namedIn address known = some named := by
    rw [inside_eq] at hnamed
    rcases List.mem_append.1 hnamed with hown | hsystem
    · obtain ⟨known, hmem, hnamed⟩ := List.mem_filterMap.1 hown
      exact ⟨known, List.mem_append_left _ hmem, hnamed⟩
    · obtain ⟨known, hmem, hnamed⟩ := List.mem_filterMap.1 (List.mem_filter.1 hsystem).1
      exact ⟨known, List.mem_append_right _ hmem, hnamed⟩
  obtain ⟨known, hmem, hknown⟩ := hknown
  have hname : named.1 ∈ known.1 := by
    rw [fst_eq_of_namedIn hknown]
    exact List.mem_append_right _ (List.mem_singleton_self _)
  rcases List.mem_append.1 hmem with hmem | hmem
  · exact h.isNamed_nodes _ (List.mem_map_of_mem hmem) _ hname
  · exact h.isNamed_system _ (List.mem_map_of_mem hmem) _ hname

theorem of_entryOf?_eq_some {node : DiskNode} {e : Entry} (h : entryOf? p name node = some e) :
    e.name = name ∧ e.path = p.join name := by
  cases node <;> cases h <;> exact ⟨rfl, rfl⟩

/-- The entries of a directory are listed. -/
theorem IsTree.isListing_entriesAt (h : d.IsTree) (address : Address) (p : Path) :
    IsListing p (d.entriesAt address p) := by
  let entries := (d.inside address).filterMap fun named => entryOf? p named.1 named.2
  have hentry : ∀ e ∈ d.entriesAt address p, ∃ named ∈ d.inside address,
      e.name = named.1 ∧ e.path = p.join named.1 := by
    intro e he
    obtain ⟨named, hnamed, he⟩ := List.mem_filterMap.1 (List.mem_mergeSort.1 he)
    exact ⟨named, hnamed, of_entryOf?_eq_some he⟩
  have hdistinct : entries.Pairwise fun e e' => e.name ≠ e'.name := by
    refine List.pairwise_filterMap.2 ((List.pairwise_map.1 (h.nodup_inside address)).imp ?_)
    intro named named' hne e he e' he' heq
    rw [(of_entryOf?_eq_some he).1, (of_entryOf?_eq_some he').1] at heq
    exact hne heq
  refine ⟨?_, fun e he => ?_, fun e he => ?_⟩
  · -- sorted by name, and no two names are the same
    have hsorted : (d.entriesAt address p).Pairwise fun e e' => e.name ≤ e'.name := by
      refine (List.pairwise_mergeSort (fun a b c hab hbc => ?_) (fun a b => ?_) _).imp
        of_decide_eq_true
      · exact decide_eq_true (String.le_trans (of_decide_eq_true hab) (of_decide_eq_true hbc))
      · simpa using String.le_total a.name b.name
    have hne := (List.mergeSort_perm entries fun a b => a.name ≤ b.name).symm.pairwise hdistinct
      fun hne => hne.symm
    exact hsorted.imp₂ (fun e e' hle hne => lt_of_le_of_ne hle hne) hne
  · obtain ⟨named, hnamed, hname, -⟩ := hentry e he
    rw [hname]
    exact h.isEntryName_inside hnamed
  · obtain ⟨named, -, hname, hpath⟩ := hentry e he
    rw [hpath, hname]

/-- A disk lists the entries of its directories. -/
theorem isFaithful_storage (h : d.IsTree) : d.storage.IsFaithful := by
  intro p entries hlist
  have hnothing : IsListing p [] := ⟨.nil, nofun, nofun⟩
  change d.list p = .ok entries at hlist
  rw [list] at hlist
  split at hlist
  · cases hlist
  · split at hlist
    · split at hlist
      · cases hlist
        exact h.isListing_entriesAt _ p
      · cases hlist
    · cases hlist
      exact hnothing
    all_goals cases hlist

/-! ### Changes -/

/-- A disk with nothing on it is a tree if the system is one. -/
theorem isTree_ofSystem {system : List (Address × DiskNode)} {workingDirectory : Address}
    (hnodup : (system.map Prod.fst).Nodup)
    (hnamed : ∀ address ∈ system.map Prod.fst, IsNamed address)
    (hworking : IsNamed workingDirectory) (made : Nat) :
    (ofSystem system workingDirectory made).IsTree where
  nodes_nodup := List.nodup_nil
  system_nodup := hnodup
  isNamed_nodes := nofun
  isNamed_system := hnamed
  isNamed_workingDirectory := hworking

/-- A change that keeps the addresses keeps a disk a tree. -/
theorem IsTree.of_map_fst_eq (h : d.IsTree) {nodes : List (Address × DiskNode)}
    (hnodes : nodes.map Prod.fst = d.nodes.map Prod.fst) (clock : Nat) :
    IsTree { d with nodes := nodes, clock := clock } where
  nodes_nodup := hnodes ▸ h.nodes_nodup
  system_nodup := h.system_nodup
  isNamed_nodes := hnodes ▸ h.isNamed_nodes
  isNamed_system := h.isNamed_system
  isNamed_workingDirectory := h.isNamed_workingDirectory

theorem IsTree.put (h : d.IsTree) (haddress : IsNamed address) (node : DiskNode) :
    (d.put address node).IsTree := by
  rw [Disk.put]
  split
  · refine h.of_map_fst_eq ?_ d.clock
    rw [List.map_map]
    refine List.map_congr_left fun known _ => ?_
    rw [Function.comp_apply]
    split
    · next heq => exact (beq_iff_eq.1 heq).symm
    · rfl
  · next hnew =>
    have hnotMem : address ∉ d.nodes.map Prod.fst := by
      intro hmem
      obtain ⟨known, hknown, heq⟩ := List.mem_map.1 hmem
      exact hnew (List.any_eq_true.2 ⟨known, hknown, beq_iff_eq.2 heq⟩)
    exact
      { nodes_nodup := by
          rw [List.map_append, List.map_singleton]
          exact h.nodes_nodup.append (List.nodup_singleton _)
            (List.disjoint_singleton.2 hnotMem)
        system_nodup := h.system_nodup
        isNamed_nodes := by
          rw [List.map_append, List.map_singleton, List.forall_mem_append,
            List.forall_mem_singleton]
          exact ⟨h.isNamed_nodes, haddress⟩
        isNamed_system := h.isNamed_system
        isNamed_workingDirectory := h.isNamed_workingDirectory }

theorem IsTree.changeFile (h : d.IsTree) (address : Address) (change : FileNode → FileNode) :
    (d.changeFile address change).IsTree := by
  rw [Disk.changeFile]
  split
  · refine h.of_map_fst_eq ?_ d.clock
    rw [List.map_map]
    refine List.map_congr_left fun known _ => ?_
    rw [Function.comp_apply]
    split
    · split <;> rfl
    · rfl
  · exact h

theorem IsTree.fill (h : d.IsTree) (haddress : IsNamed address) (mode : Mode)
    (content : List UInt8) : (d.fill address mode content).IsTree := by
  have hclock : IsTree { d with clock := d.clock + 1 } := h.of_map_fst_eq rfl (d.clock + 1)
  simp only [Disk.fill]
  split
  · exact hclock.changeFile _ _
  · exact hclock.put haddress _

theorem IsTree.remove (h : d.IsTree) (address : Address) : (d.remove address).IsTree where
  nodes_nodup := h.nodes_nodup.sublist (List.filter_sublist.map _)
  system_nodup := h.system_nodup
  isNamed_nodes other hother :=
    h.isNamed_nodes other ((List.filter_sublist.map _).subset hother)
  isNamed_system := h.isNamed_system
  isNamed_workingDirectory := h.isNamed_workingDirectory

theorem IsTree.setMode (h : d.IsTree) (haddress : IsNamed address) (mode : Mode) :
    (d.setMode address mode).IsTree := by
  rw [Disk.setMode]
  split
  · exact h.put haddress _
  · exact h.changeFile _ _

/-! ### Walks -/

/-- What stands between the slashes of a text has no slash. -/
theorem slash_notMem_of_mem_steps {text : String} (h : name ∈ steps text) :
    '/' ∉ name.toList := by
  obtain ⟨segment, hsegment, rfl⟩ := List.mem_map.1 h
  rw [String.toList_ofList]
  exact Path.slash_notMem_of_mem_segments hsegment

theorem IsNamed.dropLast (h : IsNamed address) : IsNamed address.dropLast :=
  fun name hname => h name (List.dropLast_subset address hname)

theorem IsNamed.concat (h : IsNamed address) (hname : IsEntryName name) :
    IsNamed (address ++ [name]) :=
  List.forall_mem_append.2 ⟨h, List.forall_mem_singleton.2 hname⟩

theorem IsNamed.origin (h : IsNamed address) (text : String) : IsNamed (origin address text) := by
  rw [Disk.origin]
  split
  · exact nofun
  · exact h

/-- A walk from an address that is made of names of entries, along steps without slashes, ends at
such an address. -/
theorem isNamed_of_walk {goal : Goal} {links : Nat} {pending : List String} {reached : Address}
    (hwalk : d.walk goal links address pending = .ok reached) (haddress : IsNamed address)
    (hpending : ∀ name ∈ pending, '/' ∉ name.toList) : IsNamed reached := by
  -- a walk ends where it stands or at a new entry, and goes on at the same place, above it, at the
  -- origin of a link or inside a directory; all other cases are faults
  fun_induction Disk.walk d goal links address pending with
  | case1 =>
    cases hwalk
    exact haddress
  | case3 _ _ _ _ _ ih => exact ih hwalk haddress (List.forall_mem_cons.1 hpending).2
  | case6 _ _ _ _ _ _ _ _ ih => exact ih hwalk haddress (List.forall_mem_cons.1 hpending).2
  | case7 _ _ _ _ _ _ _ _ _ ih =>
    exact ih hwalk haddress.dropLast (List.forall_mem_cons.1 hpending).2
  | case9 _ _ _ _ _ _ hne _ _ hhere hup | case11 _ _ _ _ _ _ hne _ _ hhere hup =>
    cases hwalk
    exact haddress.concat ⟨hne, (List.forall_mem_cons.1 hpending).1, hhere, hup⟩
  | case13 _ _ _ _ _ _ _ _ _ _ _ target _ _ _ ih =>
    refine ih hwalk (haddress.origin target) (List.forall_mem_append.2 ⟨fun name => ?_, ?_⟩)
    · exact slash_notMem_of_mem_steps
    · exact (List.forall_mem_cons.1 hpending).2
  | case14 _ _ _ _ _ _ hne _ _ hhere hup _ _ _ _ ih =>
    obtain ⟨hslash, hrest⟩ := List.forall_mem_cons.1 hpending
    exact ih hwalk (haddress.concat ⟨hne, hslash, hhere, hup⟩) hrest
  | _ => cases hwalk

/-- A path leads to an address that is made of names of entries. -/
theorem IsTree.isNamed_of_reach (h : d.IsTree) {goal : Goal} {reached : Address}
    (hreach : d.reach goal d.workingDirectory p = .ok reached) : IsNamed reached := by
  rw [reach] at hreach
  split at hreach
  · cases hreach
  · exact isNamed_of_walk hreach (h.isNamed_workingDirectory.origin p.text) fun name =>
      slash_notMem_of_mem_steps

theorem IsNamed.enter (h : IsNamed address) (d : Disk) (hslash : '/' ∉ name.toList) :
    IsNamed (d.enter address name) := by
  rw [Disk.enter]
  split
  · exact h
  · next hhere =>
    obtain ⟨hempty, hhere⟩ := not_or.1 hhere
    split
    · exact h.dropLast
    · next hup =>
      split
      · next inner hwalk =>
        exact isNamed_of_walk hwalk h (List.forall_mem_singleton.2 hslash)
      · exact h.concat ⟨hempty, hslash, hhere, hup⟩

/-! ### What is put on a disk -/

/-- The directories on the way to a place keep a disk a tree. -/
theorem IsTree.makeDirectories (h : d.IsTree) (haddress : IsNamed address) {names : List String}
    (hnames : ∀ name ∈ names, '/' ∉ name.toList) :
    (d.makeDirectories address names).1.IsTree ∧ IsNamed (d.makeDirectories address names).2 := by
  induction names generalizing d address with
  | nil => exact ⟨h, haddress⟩
  | cons name names ih =>
    obtain ⟨hslash, hrest⟩ := List.forall_mem_cons.1 hnames
    have hinner := haddress.enter d hslash
    rw [Disk.makeDirectories]
    split
    · exact ih h hinner hrest
    · exact ih (h.put hinner _) hinner hrest

/-- What can be written through a path is what the path leads to. -/
theorem reach_of_writable {start : Address} (h : d.writable start p = .ok address) :
    d.reach .file start p = .ok address := by
  rw [writable] at h
  cases hreach : d.reach .file start p with
  | error fault =>
    rw [hreach] at h
    cases h
  | ok reached =>
    simp only [hreach] at h
    repeat' split at h
    all_goals cases h <;> rfl

/-- What is written keeps a disk a tree. -/
theorem IsTree.write {written : Disk} {content : List UInt8} (h : d.IsTree)
    (hwrite : d.write p content = .ok written) : written.IsTree := by
  rw [Disk.write] at hwrite
  split at hwrite
  · cases hwrite
  · next address hwritable =>
    have haddress : IsNamed address := h.isNamed_of_reach (reach_of_writable hwritable)
    repeat' split at hwrite
    all_goals cases hwrite
    · exact h
    · exact h
    · exact h.fill haddress _ _

/-- The address of a file inside a directory is made of names of entries. -/
theorem IsNamed.getD_walk (h : IsNamed address) (d : Disk) (hname : IsEntryName name) :
    IsNamed ((d.walk .file maxLinks address [name]).toOption.getD (address ++ [name])) := by
  cases hwalk : d.walk .file maxLinks address [name] with
  | error fault => exact h.concat hname
  | ok reached => exact isNamed_of_walk hwalk h (List.forall_mem_singleton.2 hname.2.1)

/-- What is put on a disk from outside keeps it a tree, if it gets a name that an entry can have. -/
theorem IsTree.install (h : d.IsTree) (deposit : Deposit)
    (hname : ∀ name, ((steps p.text).filter (· != "")).getLast? = some name →
      IsEntryName name) : (d.install p deposit).IsTree := by
  have hslash : ∀ name ∈ (steps p.text).filter (· != ""), '/' ∉ name.toList := fun name hmem =>
    slash_notMem_of_mem_steps (List.mem_filter.1 hmem).1
  have hstart := h.isNamed_workingDirectory.origin p.text
  rw [Disk.install]
  split
  · exact h
  · next hne =>
    have hnames : (steps p.text).filter (· != "") ≠ [] := hne
    obtain ⟨hmade, hparent⟩ := h.makeDirectories hstart fun name hmem =>
      hslash name (List.dropLast_subset _ hmem)
    have hlast : IsEntryName (((steps p.text).filter (· != "")).getLast?.getD "") := by
      rw [List.getLast?_eq_some_getLast hnames]
      exact hname _ (List.getLast?_eq_some_getLast hnames)
    generalize d.makeDirectories _ _ = directories at hmade hparent ⊢
    generalize ((steps p.text).filter (· != "")).getLast?.getD "" = last at hlast ⊢
    obtain ⟨made, parent⟩ := directories
    cases deposit with
    | link target => exact hmade.put (hparent.concat hlast) _
    | file content isProgram =>
      have hreached := hparent.getD_walk made hlast
      have hfilled := hmade.fill hreached .newFile content
      simp only
      split
      · exact hfilled.put hreached _
      · exact hfilled
    | directory =>
      simp only
      split
      · exact hmade
      · exact hmade.put (hparent.enter made hlast.2.1) _

end DesignAtlas.Disk
