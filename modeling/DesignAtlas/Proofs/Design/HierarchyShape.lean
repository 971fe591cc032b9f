import DesignAtlas.Number.Total
import DesignAtlas.Proofs.Design.Arrangement
import DesignAtlas.Proofs.Design.Walk

/-!
# The shape of the hierarchy

The hierarchy of a design shows every root and every instance in a module that a root reaches, each
on one line. What stands below a module stands below its first line only.

* `IsHierarchy`: what the lines of a hierarchy show, where they stand, and how they are marked.
* `isHierarchy_hierarchy`: the hierarchy of a design is one.
-/

namespace DesignAtlas.Registry

open HierarchyLine

open Classical in
/-- Lines nested by their depths show the modules of a design. -/
structure IsHierarchy (r : Registry) (lines : List HierarchyLine) : Prop where
  /-- At depth zero stand the roots in the order of their names, and roots of one name in the order
  of their ids. -/
  roots : ∃ ids : List ModuleId, ids.Perm r.roots ∧
    (ids.Pairwise fun a b => r.nameOf a < r.nameOf b ∨ r.nameOf a = r.nameOf b ∧ a < b) ∧
    (lines.filter fun l => l.depth = 0).map entry = ids.map fun id => (none, id)
  /-- The other lines show the instances in all modules that a root reaches, each once and one step
  deeper than the first line of the module it is in. -/
  instances : ((lines.filter fun l => 0 < l.depth).map fun l => (l.depth, l.entry)).Perm
    ((r.instantiations.filter fun i => r.Rooted i.parent).map fun i =>
      (depthOf lines i.parent + 1, some i.label, i.child))
  /-- A module is shown if a root reaches it. -/
  shows_iff : ∀ id, Shows lines id ↔ r.Rooted id
  /-- The first line of a module has no marker, and the instances in the module stand one step
  below it in the order of the names of their modules. -/
  first : ∀ before l behind, lines = before ++ l :: behind → ¬Shows before l.id →
    l.marker = .none ∧ ∃ links,
      IsSortedByName (fun link => r.nameOf link.2) (r.submodules l.id) links ∧
      (childLines l.depth behind).map entry = links.map fun link => (some link.1, link.2)
  /-- Nothing stands below the later lines of a module. If there are instances in it, these lines
  tell whether they stand below a line of the module themselves. -/
  later : ∀ before l behind, lines = before ++ l :: behind → Shows before l.id →
    linesBelow l.depth behind = [] ∧
      (r.submodules l.id ≠ [] → l.marker =
        if Shows (linesAbove l.depth before.reverse) l.id then .recursive else .shownAbove)
  /-- The lines of a module without instances in it have no marker. -/
  leaves : ∀ l ∈ lines, r.submodules l.id = [] → l.marker = .none
  /-- The module of a line is instantiated by the module of the line above it. -/
  way : ∀ before l behind, lines = before ++ l :: behind →
    (l.id :: (linesAbove l.depth before.reverse).map HierarchyLine.id).IsChain fun child parent =>
      r.Instantiates parent child
  /-- There are as many lines as roots and instances in modules that a root reaches. -/
  length_eq : lines.length = r.roots.length +
    Number.total ((r.ids.filter fun id => r.Rooted id).map fun id => (r.submodules id).length)

variable {r : Registry} {lines : List HierarchyLine} {id : ModuleId}

/-! ### The walk from the roots -/

/-- The visits of the roots. -/
def rootVisits (r : Registry) : List Visit :=
  r.sortedRoots.map fun id => ⟨none, id, []⟩

theorem mem_rootVisits_iff {v : Visit} :
    v ∈ r.rootVisits ↔ v.id ∈ r.roots ∧ v.label = none ∧ v.ancestors = [] := by
  obtain ⟨label, id, ancestors⟩ := v
  simp only [rootVisits, sortedRoots, List.mem_map, List.mem_mergeSort, Visit.mk.injEq]
  constructor
  · rintro ⟨root, hroot, rfl, rfl, rfl⟩
    exact ⟨hroot, rfl, rfl⟩
  · rintro ⟨hroot, rfl, rfl⟩
    exact ⟨id, hroot, rfl, rfl, rfl⟩

theorem isPending_rootVisits (r : Registry) : r.IsPending [] r.rootVisits := by
  refine ⟨fun v hv => ?_, fun v hv => ?_, fun v hv => ?_, ?_⟩
  · exact (mem_roots_iff.1 (mem_rootVisits_iff.1 hv).1).1
  · rw [(mem_rootVisits_iff.1 hv).2.2]
    rfl
  · rw [(mem_rootVisits_iff.1 hv).2.2]
    exact .singleton _
  · refine List.pairwise_of_forall_mem_list fun v hv w hw => ?_
    rw [(mem_rootVisits_iff.1 hv).2.2, (mem_rootVisits_iff.1 hw).2.2]

/-- The hierarchy is a walk from the roots. -/
theorem walk_hierarchy (hr : r.IsClosed) : r.Walk [] r.rootVisits r.hierarchy := by
  refine walk_outline hr ⟨nodup_ids r, fun id hid _ => ?_⟩ (isPending_rootVisits r)
  simp [mem_ids.1 hid]

/-- At every line of the hierarchy the rest of it is a walk. -/
theorem exists_visit_of_hierarchy_eq (hr : r.IsClosed) {before behind : List HierarchyLine}
    {l : HierarchyLine} (h : r.hierarchy = before ++ l :: behind) :
    ∃ v pending, r.IsPending before.reverse (v :: pending) ∧
      l = v.line (r.markerOf before.reverse v) ∧
      r.Walk (l :: before.reverse) (r.expansion before.reverse v ++ pending) behind := by
  have hwalk := walk_hierarchy hr
  rw [h] at hwalk
  simpa using hwalk.at_line hr (isPending_rootVisits r)

/-! ### What the lines show -/

theorem pairwise_roots (r : Registry) : r.roots.Pairwise fun a b => a < b :=
  List.pairwise_lt_range.filter _

theorem exists_sorted_roots (hr : r.IsClosed) :
    ∃ ids : List ModuleId, ids.Perm r.roots ∧
      (ids.Pairwise fun a b => r.nameOf a < r.nameOf b ∨ r.nameOf a = r.nameOf b ∧ a < b) ∧
      (r.hierarchy.filter fun l => l.depth = 0).map entry = ids.map fun id => (none, id) := by
  have hsorted := isSortedByName_mergeSort r.nameOf r.roots
  refine ⟨r.sortedRoots, hsorted.perm, hsorted.pairwise (pairwise_roots r), ?_⟩
  have hall : r.rootVisits.filter (fun v => v.ancestors.length = 0) = r.rootVisits :=
    List.filter_eq_self.2 fun v hv => by simp [(mem_rootVisits_iff.1 hv).2.2]
  rw [(walk_hierarchy hr).map_entry_filter_depth, hall, rootVisits, List.map_map]
  rfl

/-- The first line of a module has no marker, and the instances in the module stand below it. -/
theorem first_line (hr : r.IsClosed) {before behind : List HierarchyLine} {l : HierarchyLine}
    (h : r.hierarchy = before ++ l :: behind) (hl : ¬Shows before l.id) :
    l.marker = .none ∧ (childLines l.depth behind).map entry =
      (r.sortedSubmodules l.id).map fun link => (some link.1, link.2) := by
  obtain ⟨v, pending, hpending, rfl, hwalk⟩ := exists_visit_of_hierarchy_eq hr h
  have hnew : ¬Shows before.reverse v.id := by simpa using hl
  refine ⟨markerOf_of_not_shows hnew, ?_⟩
  rw [expansion_of_not_shows hnew] at hwalk
  rw [hwalk.map_entry_childLines, List.map_append, childLines_append_of_eq,
    childLines_eq_nil_of_le, List.append_nil, visitsBelow, List.map_map, List.map_map]
  · rfl
  · -- the other pending visits are not deeper than the line
    intro k hk
    obtain ⟨w, hw, rfl⟩ := List.mem_map.1 hk
    exact (List.pairwise_cons.1 hpending.deepest).1 w hw
  · intro k hk
    obtain ⟨w, hw, rfl⟩ := List.mem_map.1 hk
    rw [depth_line, (ancestors_of_mem_visitsBelow hw).1, List.length_cons, depth_line]

/-- Nothing stands below a later line of a module. -/
theorem later_line (hr : r.IsClosed) {before behind : List HierarchyLine} {l : HierarchyLine}
    (h : r.hierarchy = before ++ l :: behind) (hl : Shows before l.id) :
    linesBelow l.depth behind = [] ∧
      (r.submodules l.id ≠ [] → l.marker =
        if Shows (linesAbove l.depth before.reverse) l.id then .recursive else .shownAbove) := by
  obtain ⟨v, pending, hpending, rfl, hwalk⟩ := exists_visit_of_hierarchy_eq hr h
  have hshows : Shows before.reverse v.id := by simpa using hl
  rw [expansion_of_shows hshows] at hwalk
  refine ⟨hwalk.linesBelow_eq_nil (List.pairwise_cons.1 hpending.deepest).1, fun hchildren => ?_⟩
  -- the lines above show the modules on the way to the visit
  have habove : v.id ∈ v.ancestors ↔ Shows (linesAbove v.ancestors.length before.reverse) v.id :=
    hpending.mem_ancestors_iff
  simp only [marker_line, markerOf_of_shows hshows hchildren, habove, depth_line, id_line]

theorem leaf_line (hr : r.IsClosed) {l : HierarchyLine} (hl : l ∈ r.hierarchy)
    (hleaf : r.submodules l.id = []) : l.marker = .none := by
  obtain ⟨before, behind, h⟩ := List.append_of_mem hl
  obtain ⟨v, pending, -, rfl, -⟩ := exists_visit_of_hierarchy_eq hr h
  exact markerOf_of_leaf hleaf

/-- The module of a line is instantiated by the module of the line above it. -/
theorem isChain_way (hr : r.IsClosed) {before behind : List HierarchyLine} {l : HierarchyLine}
    (h : r.hierarchy = before ++ l :: behind) :
    (l.id :: (linesAbove l.depth before.reverse).map HierarchyLine.id).IsChain fun child parent =>
      r.Instantiates parent child := by
  obtain ⟨v, pending, hpending, rfl, -⟩ := exists_visit_of_hierarchy_eq hr h
  have hchain := hpending.chain v List.mem_cons_self
  rwa [hpending.above v List.mem_cons_self] at hchain

/-- Lines that show the instances in a module show everything that it instantiates. -/
theorem shows_of_map_entry_eq {parent child : ModuleId} {links : List (String × ModuleId)}
    (hlinks : links.Perm (r.submodules parent))
    (hentries : lines.map entry = links.map fun link => (some link.1, link.2))
    (h : r.Instantiates parent child) : Shows lines child := by
  obtain ⟨label, hlabel⟩ := instantiates_iff.1 h
  have hentry : (some label, child) ∈ lines.map entry := by
    rw [hentries]
    exact List.mem_map.2 ⟨_, hlinks.mem_iff.2 hlabel, rfl⟩
  obtain ⟨l, hl, hlEntry⟩ := List.mem_map.1 hentry
  exact ⟨l, hl, congrArg Prod.snd hlEntry⟩

/-- Every instance in a module of the hierarchy is shown. -/
theorem shows_of_instantiates (hr : r.IsClosed) {parent child : ModuleId}
    (hparent : Shows r.hierarchy parent) (h : r.Instantiates parent child) :
    Shows r.hierarchy child := by
  -- it stands below the first line of the module that it is in
  obtain ⟨before, l, behind, hlines, rfl, hfirst⟩ := exists_first_of_exists hparent
  have hentries := (first_line hr hlines fun ⟨k, hk, hid⟩ => hfirst k hk hid).2
  obtain ⟨k, hk, rfl⟩ := shows_of_map_entry_eq (List.mergeSort_perm _ _) hentries h
  have hkBehind : k ∈ behind := mem_of_mem_linesBelow (mem_linesBelow_of_mem_childLines hk)
  rw [hlines]
  exact shows_of_mem (by simp [hkBehind])

theorem shows_of_mem_roots (hr : r.IsClosed) (hid : id ∈ r.roots) : Shows r.hierarchy id := by
  obtain ⟨ids, hperm, -, hentries⟩ := exists_sorted_roots hr
  have hentry : (none, id) ∈ (r.hierarchy.filter fun l => l.depth = 0).map entry := by
    rw [hentries]
    exact List.mem_map.2 ⟨id, hperm.mem_iff.2 hid, rfl⟩
  obtain ⟨l, hl, hlEntry⟩ := List.mem_map.1 hentry
  exact ⟨l, List.mem_of_mem_filter hl, congrArg Prod.snd hlEntry⟩

/-- The hierarchy shows the modules that a root reaches. -/
theorem shows_hierarchy_iff (hr : r.IsClosed) : Shows r.hierarchy id ↔ r.Rooted id := by
  constructor
  · rintro ⟨l, hl, rfl⟩
    obtain ⟨v, hv, hreaches⟩ := (walk_hierarchy hr).exists_reaches l hl
    exact ⟨v.id, (mem_rootVisits_iff.1 hv).1, hreaches⟩
  · rintro ⟨root, hroot, hreaches⟩
    induction hreaches with
    | refl => exact shows_of_mem_roots hr hroot
    | tail _ hstep ih => exact shows_of_instantiates hr ih hstep

/-! ### Counting the lines -/

/-- The lines below the roots are those below the first lines of the modules. -/
theorem entries_below_perm (hr : r.IsClosed) :
    ((r.hierarchy.filter fun l => 0 < l.depth).map fun l => (l.depth, l.entry)).Perm
      ((firstLines [] r.hierarchy).flatMap r.entriesBelow) := by
  have hperm := (walk_hierarchy hr).entries_perm.filter fun e => 0 < e.1
  have hroots : (r.rootVisits.map fun v => (v.ancestors.length, v.label, v.id)).filter
      (fun e => 0 < e.1) = [] := by
    refine List.filter_eq_nil_iff.2 fun e he => ?_
    obtain ⟨v, hv, rfl⟩ := List.mem_map.1 he
    simp [(mem_rootVisits_iff.1 hv).2.2]
  have hbelow : ((firstLines [] r.hierarchy).flatMap r.entriesBelow).filter (fun e => 0 < e.1) =
      (firstLines [] r.hierarchy).flatMap r.entriesBelow := by
    refine List.filter_eq_self.2 fun e he => ?_
    obtain ⟨l, -, he⟩ := List.mem_flatMap.1 he
    obtain ⟨link, -, rfl⟩ := List.mem_map.1 he
    simp
  rw [List.filter_append, hroots, hbelow, List.nil_append, List.filter_map] at hperm
  exact hperm

open Classical in
/-- The instances in the modules of first lines are those in the modules that a root reaches. -/
theorem instantiations_of_firstLines_perm (hr : r.IsClosed) :
    (((firstLines [] r.hierarchy).map HierarchyLine.id).flatMap fun id =>
      r.instantiations.filter fun i => i.parent == id).Perm
        (r.instantiations.filter fun i => r.Rooted i.parent) := by
  refine (flatMap_filter_perm nodup_map_id_firstLines Instantiation.parent _).trans ?_
  refine List.Perm.of_eq (List.filter_congr fun i _ => ?_)
  rw [decide_eq_decide, ← shows_hierarchy_iff hr, ← shows_firstLines_iff not_shows_nil]
  exact List.mem_map

open Classical in
theorem instances_perm (hr : r.IsClosed) :
    ((r.hierarchy.filter fun l => 0 < l.depth).map fun l => (l.depth, l.entry)).Perm
      ((r.instantiations.filter fun i => r.Rooted i.parent).map fun i =>
        (depthOf r.hierarchy i.parent + 1, some i.label, i.child)) := by
  let entryOf : Instantiation → Nat × Option String × ModuleId := fun i =>
    (depthOf r.hierarchy i.parent + 1, some i.label, i.child)
  -- below a first line stand the instances in its module, in another order
  have hline : ∀ l ∈ firstLines [] r.hierarchy,
      (r.entriesBelow l).Perm
        ((r.instantiations.filter fun i => i.parent == l.id).map entryOf) := by
    intro l hl
    refine ((List.mergeSort_perm _ _).map _).trans (List.Perm.of_eq ?_)
    rw [submodules, List.map_map]
    refine List.map_congr_left fun i hi => ?_
    have hparent : i.parent = l.id := by simpa using (List.mem_filter.1 hi).2
    simp [entryOf, hparent, depthOf_of_mem_firstLines hl]
  have hall := (instantiations_of_firstLines_perm hr).map entryOf
  rw [List.flatMap_map, List.map_flatMap] at hall
  exact (entries_below_perm hr).trans ((List.Perm.flatMap_left _ hline).trans hall)

open Classical in
/-- The instances in the modules that a root reaches, counted module by module. -/
theorem length_instances (hr : r.IsClosed) :
    (r.instantiations.filter fun i => r.Rooted i.parent).length =
      Number.total
        ((r.ids.filter fun id => r.Rooted id).map fun id => (r.submodules id).length) := by
  have hgroups := flatMap_filter_perm ((nodup_ids r).filter fun id => decide (r.Rooted id))
    Instantiation.parent r.instantiations
  have hrooted : (r.instantiations.filter fun i =>
      i.parent ∈ r.ids.filter fun id => decide (r.Rooted id)) =
        r.instantiations.filter fun i => r.Rooted i.parent := by
    refine List.filter_congr fun i hi => ?_
    simp [(hr i hi).1]
  rw [hrooted] at hgroups
  rw [← hgroups.length_eq, Number.length_flatMap]
  simp [submodules]

open Classical in
theorem length_hierarchy (hr : r.IsClosed) :
    r.hierarchy.length = r.roots.length +
      Number.total
        ((r.ids.filter fun id => r.Rooted id).map fun id => (r.submodules id).length) := by
  obtain ⟨ids, hperm, -, hentries⟩ := exists_sorted_roots hr
  have hroots : (r.hierarchy.filter fun l => l.depth = 0).length = r.roots.length := by
    have hlength := congrArg List.length hentries
    rwa [List.length_map, List.length_map, hperm.length_eq] at hlength
  have hbelow : (r.hierarchy.filter fun l => 0 < l.depth).length =
      (r.instantiations.filter fun i => r.Rooted i.parent).length := by
    have hlength := (instances_perm hr).length_eq
    rwa [List.length_map, List.length_map] at hlength
  have hsplit := (List.filter_append_perm (fun l => l.depth = 0) r.hierarchy).length_eq
  have hpos : (r.hierarchy.filter fun l => !decide (l.depth = 0)) =
      r.hierarchy.filter fun l => 0 < l.depth :=
    List.filter_congr fun l _ => by simp [Nat.pos_iff_ne_zero]
  rw [List.length_append, hpos, hroots, hbelow, length_instances hr] at hsplit
  exact hsplit.symm

/-- The hierarchy of a design shows its modules. -/
theorem isHierarchy_hierarchy (hr : r.IsClosed) : r.IsHierarchy r.hierarchy where
  roots := exists_sorted_roots hr
  instances := instances_perm hr
  shows_iff _ := shows_hierarchy_iff hr
  first before l behind h hl := by
    obtain ⟨hmarker, hentries⟩ := first_line hr h hl
    exact ⟨hmarker, _, isSortedByName_mergeSort _ _, hentries⟩
  later _ _ _ h hl := later_line hr h hl
  leaves _ hl hleaf := leaf_line hr hl hleaf
  way _ _ _ h := isChain_way hr h
  length_eq := length_hierarchy hr

end DesignAtlas.Registry
