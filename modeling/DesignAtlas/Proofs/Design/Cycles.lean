import DesignAtlas.Proofs.Design.HierarchyShape

/-!
# Cycles in the hierarchy

A line is marked as recursive if its module stands above it. A cycle could be hidden if one of its
modules was shown before, below another module. That does not happen: of the modules of a cycle one
is shown first, and below its first line the cycle is followed back to it.

* `IsHierarchy.shows_linesBelow`: below its first line a module shows what it reaches through
  modules that were not shown before.
* `IsHierarchy.exists_recursive_iff`: a line is marked as recursive exactly if a root reaches a
  cycle.
-/

namespace DesignAtlas.Registry

open HierarchyLine

variable {r : Registry} {lines before behind : List HierarchyLine} {l : HierarchyLine}
  {id : ModuleId}

/-- The module of a recursive line reaches itself. -/
theorem IsHierarchy.cyclic_of_recursive (h : r.IsHierarchy lines)
    (hlines : lines = before ++ l :: behind) (hl : l.marker = .recursive) : r.Cyclic l.id := by
  have hshown : Shows before l.id := by
    by_contra hnew
    have hnone := (h.first before l behind hlines hnew).1
    rw [hl] at hnone
    contradiction
  have hchildren : r.submodules l.id ≠ [] := by
    intro hleaf
    have hnone := h.leaves l (by simp [hlines]) hleaf
    rw [hl] at hnone
    contradiction
  -- only a line that stands below its own module is marked so
  have hmarker := (h.later before l behind hlines hshown).2 hchildren
  rw [hl] at hmarker
  split at hmarker
  · next habove =>
    obtain ⟨k, hk, hid⟩ := habove
    refine transGen_of_isChain (h.way before l behind hlines) ?_
    exact List.mem_map.2 ⟨k, hk, hid⟩
  · contradiction

/-- Directly below the first line of a module stands everything that it instantiates. -/
theorem IsHierarchy.shows_childLines (h : r.IsHierarchy lines)
    (hlines : lines = before ++ l :: behind) (hl : ¬Shows before l.id) {child : ModuleId}
    (hchild : r.Instantiates l.id child) : Shows (childLines l.depth behind) child := by
  obtain ⟨-, links, hsorted, hentries⟩ := h.first before l behind hlines hl
  exact shows_of_map_entry_eq hsorted.perm hentries hchild

/-- Below its first line a module shows everything that it reaches through modules that were not
shown in front of this line. -/
theorem IsHierarchy.shows_linesBelow (h : r.IsHierarchy lines)
    (hlines : lines = before ++ l :: behind) (hl : ¬Shows before l.id) {m : ModuleId}
    (hm : Relation.TransGen (fun parent child => r.Instantiates parent child ∧ ¬Shows before child)
      l.id m) : Shows (linesBelow l.depth behind) m ∧ ¬Shows before m := by
  have hchild : ∀ child, r.Instantiates l.id child → Shows (linesBelow l.depth behind) child := by
    intro child hchild
    obtain ⟨k, hk, rfl⟩ := h.shows_childLines hlines hl hchild
    exact shows_of_mem (mem_linesBelow_of_mem_childLines hk)
  induction hm with
  | single hstep => exact ⟨hchild _ hstep.1, hstep.2⟩
  | @tail parent child _ hstep ih =>
    refine ⟨?_, hstep.2⟩
    by_cases hparent : parent = l.id
    · exact hchild child (hparent ▸ hstep.1)
    -- the first line of the parent stands below, too, and the child stands below that line
    obtain ⟨between, k, rest, rfl, rfl, hbetween, hdeeper, hbetweenDeeper⟩ :=
      exists_first_of_shows_linesBelow ih.1
    have hk : lines = (before ++ l :: between) ++ k :: rest := by simp [hlines]
    have hfirst : ¬Shows (before ++ l :: between) k.id := by
      simp [ih.2, hbetween, Ne.symm hparent]
    obtain ⟨j, hj, rfl⟩ := h.shows_childLines hk hfirst hstep.1
    have hjBelow := mem_linesBelow_of_lt hdeeper (mem_linesBelow_of_mem_childLines hj)
    rw [linesBelow_append hbetweenDeeper, linesBelow_cons_of_lt hdeeper]
    exact shows_of_mem (by simp [hjBelow])

/-- A line that shows a module below the first line of this module is marked as recursive. -/
theorem IsHierarchy.exists_recursive_of_shows_linesBelow (h : r.IsHierarchy lines)
    (hlines : lines = before ++ l :: behind) (hchildren : r.submodules l.id ≠ [])
    (hself : Shows (linesBelow l.depth behind) l.id) : ∃ k ∈ lines, k.marker = .recursive := by
  obtain ⟨between, k, rest, rfl, hid, -, hdeeper, hbetween⟩ :=
    exists_first_of_shows_linesBelow hself
  refine ⟨k, by simp [hlines], ?_⟩
  have hmarker := (h.later (before ++ l :: between) k rest (by simp [hlines])
    (by simp [hid])).2 (hid ▸ hchildren)
  rw [hmarker, if_pos]
  refine ⟨l, ?_, hid.symm⟩
  -- everything between the two lines is deeper than the first one
  rw [List.reverse_append, List.reverse_cons, List.append_assoc, List.singleton_append]
  exact mem_linesAbove_append (fun j hj => hbetween j (List.mem_reverse.1 hj)) hdeeper

/-- A cycle that a root reaches is followed to a recursive line. -/
theorem IsHierarchy.exists_recursive_of_cyclic (h : r.IsHierarchy lines) (hrooted : r.Rooted id)
    (hcyclic : r.Cyclic id) : ∃ l ∈ lines, l.marker = .recursive := by
  -- among the lines of the modules that reach the given one and are reached by it take the first
  have hsome : ∃ l ∈ lines, r.Reaches id l.id ∧ r.Reaches l.id id := by
    obtain ⟨l, hl, rfl⟩ := (h.shows_iff id).2 hrooted
    exact ⟨l, hl, .refl, .refl⟩
  obtain ⟨before, l, behind, hlines, ⟨hto, hfrom⟩, hbefore⟩ := exists_first_of_exists hsome
  have hnew : ∀ m, r.Reaches id m → r.Reaches m id → ¬Shows before m := by
    rintro m hto hfrom ⟨k, hk, rfl⟩
    exact hbefore k hk ⟨hto, hfrom⟩
  have hself : Relation.TransGen r.Instantiates l.id l.id :=
    (Relation.TransGen.trans_right hfrom hcyclic).trans_left hto
  -- the way from it back to itself goes through such modules only
  have hway : ∀ m, Relation.TransGen r.Instantiates l.id m → r.Reaches m l.id →
      Relation.TransGen (fun parent child => r.Instantiates parent child ∧ ¬Shows before child)
        l.id m := by
    intro m hm hback
    induction hm with
    | single hstep =>
      exact .single ⟨hstep, hnew _ (hto.tail hstep) (hback.trans hfrom)⟩
    | tail hm hstep ih =>
      refine (ih (.head hstep hback)).tail ⟨hstep, hnew _ ?_ (hback.trans hfrom)⟩
      exact hto.trans (hm.to_reflTransGen.tail hstep)
  refine h.exists_recursive_of_shows_linesBelow hlines ?_
    (h.shows_linesBelow hlines (hnew l.id hto hfrom) (hway l.id hself .refl)).1
  exact submodules_ne_nil_of_transGen hself

/-- A line is marked as recursive exactly if a root reaches a module on a cycle. -/
theorem IsHierarchy.exists_recursive_iff (h : r.IsHierarchy lines) :
    (∃ l ∈ lines, l.marker = .recursive) ↔ ∃ id, r.Rooted id ∧ r.Cyclic id := by
  constructor
  · rintro ⟨l, hl, hmarker⟩
    obtain ⟨before, behind, hlines⟩ := List.append_of_mem hl
    exact ⟨l.id, (h.shows_iff l.id).1 (shows_of_mem hl), h.cyclic_of_recursive hlines hmarker⟩
  · rintro ⟨id, hrooted, hcyclic⟩
    exact h.exists_recursive_of_cyclic hrooted hcyclic

end DesignAtlas.Registry
