import DesignAtlas.Proofs.Design.Nesting
import DesignAtlas.Proofs.Design.Reachability

/-!
# Walks through a design

The hierarchy is written by a walk that remembers the modules it may still expand. The lines
written so far tell the same: a module can be expanded as long as no line shows it, and the way to
a line is made of the lines above it. A walk that goes by its lines needs no other memory.

* `Walk`: a walk that goes by the lines written so far.
* `IsPending`: what every walk keeps about the visits still to be made.
* `walk_outline`: the outline of pending visits is such a walk.
* `Walk.at_line`: at every line the rest of a walk is a walk again.
* `Walk.map_entry_childLines`, `Walk.map_entry_filter_depth`, `Walk.entries_perm`: what stands
  below a line, at one depth, and at all depths is read off the pending visits.
-/

namespace DesignAtlas.Registry

open HierarchyLine

/-- The marker on the line of a visit, when `written` are the lines in front of it. -/
def markerOf (r : Registry) (written : List HierarchyLine) (v : Visit) : Marker :=
  if Shows written v.id ∧ r.submodules v.id ≠ [] then
    if v.id ∈ v.ancestors then .recursive else .shownAbove
  else .none

/-- The visits that the line of a visit brings, when `written` are the lines in front of it. -/
def expansion (r : Registry) (written : List HierarchyLine) (v : Visit) : List Visit :=
  if Shows written v.id then [] else r.visitsBelow v

/-- A walk writes the lines of pending visits behind the lines written so far, of which the nearest
comes first. It expands the modules that no line shows. -/
inductive Walk (r : Registry) : List HierarchyLine → List Visit → List HierarchyLine → Prop
  /-- No visit is pending. -/
  | done (written : List HierarchyLine) : Walk r written [] []
  /-- The line of the first visit is written, and the visits it brings come before the others. -/
  | line {written : List HierarchyLine} {v : Visit} {pending : List Visit}
      {lines : List HierarchyLine} :
      Walk r (v.line (r.markerOf written v) :: written) (r.expansion written v ++ pending) lines →
        Walk r written (v :: pending) (v.line (r.markerOf written v) :: lines)

/-- What a walk keeps about the visits still to be made. -/
structure IsPending (r : Registry) (written : List HierarchyLine) (pending : List Visit) :
    Prop where
  /-- They lead to known modules. -/
  known : ∀ v ∈ pending, v.id ∈ r.ids
  /-- The modules above a visit are those of the lines that its line will stand below. -/
  above : ∀ v ∈ pending, v.ancestors = (linesAbove v.ancestors.length written).map HierarchyLine.id
  /-- Each module on the way to a visit is instantiated by the one above it. -/
  chain : ∀ v ∈ pending, (v.id :: v.ancestors).IsChain fun child parent =>
    r.Instantiates parent child
  /-- Deeper visits come first. -/
  deepest : pending.Pairwise fun v w => w.ancestors.length ≤ v.ancestors.length

variable {r : Registry} {written lines : List HierarchyLine} {pending : List Visit} {v w : Visit}
  {marker : Marker}

@[simp]
theorem depth_line : (v.line marker).depth = v.ancestors.length := rfl

@[simp]
theorem id_line : (v.line marker).id = v.id := rfl

@[simp]
theorem marker_line : (v.line marker).marker = marker := rfl

/-! ### The visits that a line brings -/

theorem mem_sortedSubmodules_iff {id : ModuleId} {link : String × ModuleId} :
    link ∈ r.sortedSubmodules id ↔ link ∈ r.submodules id :=
  List.mem_mergeSort

theorem visitsBelow_eq_nil (h : r.submodules v.id = []) : r.visitsBelow v = [] := by
  simp [visitsBelow, sortedSubmodules, h]

/-- A visit below another one leads to a module that the other one's module instantiates. -/
theorem ancestors_of_mem_visitsBelow (h : w ∈ r.visitsBelow v) :
    w.ancestors = v.id :: v.ancestors ∧ r.Instantiates v.id w.id := by
  obtain ⟨link, hlink, rfl⟩ := List.mem_map.1 h
  exact ⟨rfl, instantiates_iff.2 ⟨link.1, mem_sortedSubmodules_iff.1 hlink⟩⟩

theorem ancestors_of_mem_expansion (h : w ∈ r.expansion written v) :
    w.ancestors = v.id :: v.ancestors ∧ r.Instantiates v.id w.id := by
  unfold expansion at h
  split at h
  · exact absurd h List.not_mem_nil
  · exact ancestors_of_mem_visitsBelow h

theorem expansion_of_shows (h : Shows written v.id) : r.expansion written v = [] :=
  if_pos h

theorem expansion_of_not_shows (h : ¬Shows written v.id) :
    r.expansion written v = r.visitsBelow v :=
  if_neg h

theorem expansion_of_leaf (h : r.submodules v.id = []) : r.expansion written v = [] := by
  rw [expansion, visitsBelow_eq_nil h, ite_self]

theorem markerOf_of_not_shows (h : ¬Shows written v.id) : r.markerOf written v = .none :=
  if_neg fun hv => h hv.1

theorem markerOf_of_leaf (h : r.submodules v.id = []) : r.markerOf written v = .none :=
  if_neg fun hv => hv.2 h

theorem markerOf_of_shows (h : Shows written v.id) (hchildren : r.submodules v.id ≠ []) :
    r.markerOf written v = if v.id ∈ v.ancestors then .recursive else .shownAbove :=
  if_pos ⟨h, hchildren⟩

/-! ### What a walk keeps -/

/-- The modules above the first pending visit are those of the lines that its line will stand
below. -/
theorem IsPending.mem_ancestors_iff (h : r.IsPending written (v :: pending)) {id : ModuleId} :
    id ∈ v.ancestors ↔ Shows (linesAbove v.ancestors.length written) id := by
  have habove := h.above v List.mem_cons_self
  constructor
  · intro hid
    rw [habove] at hid
    exact List.mem_map.1 hid
  · rintro ⟨l, hl, rfl⟩
    rw [habove]
    exact List.mem_map_of_mem hl

/-- The modules above the first pending visit are shown by the lines written so far. -/
theorem IsPending.shows_of_mem_ancestors (h : r.IsPending written (v :: pending)) {id : ModuleId}
    (hid : id ∈ v.ancestors) : Shows written id := by
  obtain ⟨l, hl, rfl⟩ := h.mem_ancestors_iff.1 hid
  exact shows_of_mem (mem_of_mem_linesAbove hl)

/-- Writing a line keeps what is known about the pending visits. -/
theorem IsPending.line (hr : r.IsClosed) (h : r.IsPending written (v :: pending))
    (marker : Marker) :
    r.IsPending (v.line marker :: written) (r.expansion written v ++ pending) := by
  have hv : v ∈ v :: pending := List.mem_cons_self
  obtain ⟨hbehind, hdeepest⟩ := List.pairwise_cons.1 h.deepest
  refine ⟨fun w hw => ?_, fun w hw => ?_, fun w hw => ?_, ?_⟩
  · -- known
    rcases List.mem_append.1 hw with hw | hw
    · exact hr.child_mem_ids (ancestors_of_mem_expansion hw).2
    · exact h.known w (List.mem_cons_of_mem v hw)
  · -- above: the new line stands above the visits it brings and above no other one
    rcases List.mem_append.1 hw with hw | hw
    · rw [(ancestors_of_mem_expansion hw).1, linesAbove_cons_of_lt (by simp), List.map_cons,
        depth_line, ← h.above v hv, id_line]
    · rw [linesAbove_cons_of_le (by simpa using hbehind w hw)]
      exact h.above w (List.mem_cons_of_mem v hw)
  · -- chain
    rcases List.mem_append.1 hw with hw | hw
    · obtain ⟨hancestors, hstep⟩ := ancestors_of_mem_expansion hw
      rw [hancestors]
      exact List.isChain_cons_cons.2 ⟨hstep, h.chain v hv⟩
    · exact h.chain w (List.mem_cons_of_mem v hw)
  · -- deepest
    have hlength : ∀ w ∈ r.expansion written v, w.ancestors.length = v.ancestors.length + 1 :=
      fun w hw => by rw [(ancestors_of_mem_expansion hw).1, List.length_cons]
    refine List.pairwise_append.2 ⟨?_, hdeepest, fun w hw u hu => ?_⟩
    · refine List.pairwise_of_forall_mem_list fun w hw u hu => ?_
      rw [hlength w hw, hlength u hu]
    · have := hbehind u hu
      rw [hlength w hw]
      omega

/-! ### The outline is a walk -/

/-- The modules that can still be expanded are told by the lines written so far: of the modules
with instances in them they are those that no line shows. -/
structure IsUnexpanded (r : Registry) (written : List HierarchyLine)
    (unexpanded : List ModuleId) : Prop where
  /-- No module stands there twice. -/
  nodup : unexpanded.Nodup
  /-- A module stands there if no line shows it. -/
  mem_iff : ∀ id ∈ r.ids, r.submodules id ≠ [] → (id ∈ unexpanded ↔ ¬Shows written id)

variable {unexpanded : List ModuleId}

/-- Nothing changes with the line of a module that was shown or that has nothing below it. -/
theorem IsUnexpanded.line (h : r.IsUnexpanded written unexpanded)
    (hv : Shows written v.id ∨ r.submodules v.id = []) (marker : Marker) :
    r.IsUnexpanded (v.line marker :: written) unexpanded := by
  refine ⟨h.nodup, fun id hid hchildren => ?_⟩
  rw [h.mem_iff id hid hchildren, shows_cons_iff, id_line, not_or, iff_and_self]
  rintro hnew rfl
  rcases hv with hv | hv
  · exact hnew hv
  · exact hchildren hv

/-- The line of a module that is expanded takes that module out. -/
theorem IsUnexpanded.expand (h : r.IsUnexpanded written unexpanded) (marker : Marker) :
    r.IsUnexpanded (v.line marker :: written) (unexpanded.erase v.id) := by
  refine ⟨h.nodup.erase v.id, fun id hid hchildren => ?_⟩
  rw [h.nodup.mem_erase_iff, h.mem_iff id hid hchildren, shows_cons_iff, id_line, not_or, ne_comm]

/-- A line with the marker and the visits that it has to have goes on a walk. -/
theorem Walk.line_of_eq (hr : r.IsClosed) {visits : List Visit}
    (hpending : r.IsPending written (v :: pending)) (hmarker : r.markerOf written v = marker)
    (hvisits : r.expansion written v = visits)
    (h : r.IsPending (v.line marker :: written) (visits ++ pending) →
      r.Walk (v.line marker :: written) (visits ++ pending) lines) :
    r.Walk written (v :: pending) (v.line marker :: lines) := by
  subst hmarker hvisits
  exact .line (h (hpending.line hr _))

/-- The outline of pending visits is a walk. -/
theorem walk_outline (hr : r.IsClosed) (hunexpanded : r.IsUnexpanded written unexpanded)
    (hpending : r.IsPending written pending) :
    r.Walk written pending (outline r unexpanded pending) := by
  induction unexpanded, pending using outline.induct r generalizing written with
  | case1 unexpanded =>
    rw [outline]
    exact .done written
  | case2 unexpanded v pending hv ih =>
    -- the module stands on the way to the visit
    have hreaches : Relation.TransGen r.Instantiates v.id v.id :=
      transGen_of_isChain (hpending.chain v List.mem_cons_self) hv
    have hchildren := submodules_ne_nil_of_transGen hreaches
    have hshows := hpending.shows_of_mem_ancestors hv
    have hmarker : r.markerOf written v = .recursive := by
      rw [markerOf_of_shows hshows hchildren, if_pos hv]
    rw [outline, if_pos hv]
    exact .line_of_eq hr hpending hmarker (expansion_of_shows hshows)
      (ih (hunexpanded.line (.inl hshows) _))
  | case3 unexpanded v pending hv hleaf ih =>
    -- the module has nothing below it
    rw [outline, if_neg hv, if_pos hleaf]
    exact .line_of_eq hr hpending (markerOf_of_leaf hleaf) (expansion_of_leaf hleaf)
      (ih (hunexpanded.line (.inr hleaf) _))
  | case4 unexpanded v pending hv hchildren hmem ih =>
    -- the module is expanded
    have hnew : ¬Shows written v.id :=
      (hunexpanded.mem_iff v.id (hpending.known v List.mem_cons_self) hchildren).1 hmem
    rw [outline, if_neg hv, if_neg hchildren, if_pos hmem]
    exact .line_of_eq hr hpending (markerOf_of_not_shows hnew) (expansion_of_not_shows hnew)
      (ih (hunexpanded.expand _))
  | case5 unexpanded v pending hv hchildren hmem ih =>
    -- the module was expanded on an earlier line
    have hshows : Shows written v.id := by
      by_contra hnew
      exact hmem ((hunexpanded.mem_iff v.id (hpending.known v List.mem_cons_self) hchildren).2 hnew)
    have hmarker : r.markerOf written v = .shownAbove := by
      rw [markerOf_of_shows hshows hchildren, if_neg hv]
    rw [outline, if_neg hv, if_neg hchildren, if_neg hmem]
    exact .line_of_eq hr hpending hmarker (expansion_of_shows hshows)
      (ih (hunexpanded.line (.inl hshows) _))

/-! ### What a walk writes -/

/-- At every line of a walk the rest of it is a walk again. -/
theorem Walk.at_line (hr : r.IsClosed) {front behind : List HierarchyLine} {l : HierarchyLine}
    (h : r.Walk written pending (front ++ l :: behind)) (hpending : r.IsPending written pending) :
    ∃ v rest, r.IsPending (front.reverse ++ written) (v :: rest) ∧
      l = v.line (r.markerOf (front.reverse ++ written) v) ∧
      r.Walk (l :: (front.reverse ++ written)) (r.expansion (front.reverse ++ written) v ++ rest)
        behind := by
  induction front generalizing written pending with
  | nil =>
    cases h with
    | line h => exact ⟨_, _, hpending, rfl, h⟩
  | cons k front ih =>
    cases h with
    | line h =>
      rw [List.reverse_cons, List.append_assoc, List.singleton_append]
      exact ih h (hpending.line hr _)

/-- Nothing that a walk writes stands below a depth that all pending visits have reached. -/
theorem Walk.linesBelow_eq_nil (h : r.Walk written pending lines) {depth : Nat}
    (hdepth : ∀ v ∈ pending, v.ancestors.length ≤ depth) : linesBelow depth lines = [] := by
  cases h with
  | done => rfl
  | line h => exact linesBelow_cons_of_le (hdepth _ List.mem_cons_self)

/-- What a walk writes directly below a depth are the pending visits that stand there. -/
theorem Walk.map_entry_childLines (h : r.Walk written pending lines) (depth : Nat) :
    (childLines depth lines).map entry =
      (childLines depth (pending.map (Visit.line · .none))).map entry := by
  induction h with
  | done => rfl
  | @line written v pending lines h ih =>
    rw [List.map_append] at ih
    -- the visits that the line brings stand one step deeper than the line
    have hvisits : ∀ k ∈ (r.expansion written v).map (Visit.line · .none),
        k.depth = v.ancestors.length + 1 := by
      intro k hk
      obtain ⟨w, hw, rfl⟩ := List.mem_map.1 hk
      rw [depth_line, (ancestors_of_mem_expansion hw).1, List.length_cons]
    rw [List.map_cons]
    rcases Nat.lt_trichotomy v.ancestors.length (depth + 1) with hv | hv | hv
    · rw [childLines_cons_of_le (by simpa using Nat.lt_succ_iff.1 hv),
        childLines_cons_of_le (by simpa using Nat.lt_succ_iff.1 hv)]
    · rw [childLines_cons_of_eq (by simpa using hv), childLines_cons_of_eq (by simpa using hv),
        List.map_cons, List.map_cons, ih, childLines_append_of_lt]
      · rfl
      · intro k hk
        rw [hvisits k hk, hv]
        exact Nat.lt_succ_self _
    · rw [childLines_cons_of_lt (by simpa using hv), childLines_cons_of_lt (by simpa using hv), ih,
        childLines_append_of_lt]
      intro k hk
      rw [hvisits k hk]
      exact Nat.lt_succ_of_lt hv

/-- What a walk writes at depth zero are the pending visits that stand there. -/
theorem Walk.map_entry_filter_depth (h : r.Walk written pending lines) :
    (lines.filter fun l => l.depth = 0).map entry =
      (pending.filter fun v => v.ancestors.length = 0).map fun v => (v.label, v.id) := by
  induction h with
  | done => rfl
  | @line written v pending lines h ih =>
    have hvisits : (r.expansion written v).filter (fun w => w.ancestors.length = 0) = [] := by
      refine List.filter_eq_nil_iff.2 fun w hw => ?_
      simp [(ancestors_of_mem_expansion hw).1]
    rw [List.filter_append, hvisits, List.nil_append] at ih
    by_cases hv : v.ancestors.length = 0
    · rw [List.filter_cons_of_pos (by simpa using hv), List.filter_cons_of_pos (by simpa using hv),
        List.map_cons, List.map_cons, ih]
      rfl
    · rw [List.filter_cons_of_neg (by simpa using hv), List.filter_cons_of_neg (by simpa using hv),
        ih]

/-- What stands below the line that expands a module, with the depth. -/
def entriesBelow (r : Registry) (l : HierarchyLine) : List (Nat × Option String × ModuleId) :=
  (r.sortedSubmodules l.id).map fun link => (l.depth + 1, some link.1, link.2)

/-- A walk writes the pending visits and everything below the lines that expand a module, each
once. -/
theorem Walk.entries_perm (h : r.Walk written pending lines) :
    (lines.map fun l => (l.depth, l.entry)).Perm
      ((pending.map fun v => (v.ancestors.length, v.label, v.id)) ++
        (firstLines written lines).flatMap r.entriesBelow) := by
  induction h with
  | done => rfl
  | @line written v pending lines h ih =>
    rw [List.map_cons, List.map_cons, List.cons_append, firstLines]
    refine List.Perm.cons _ (ih.trans ?_)
    rw [id_line]
    split
    · next hshows => rw [expansion_of_shows hshows, List.nil_append]
    · next hnew =>
      have hbelow : r.entriesBelow (v.line (r.markerOf written v)) =
          (r.visitsBelow v).map fun w => (w.ancestors.length, w.label, w.id) := by
        rw [entriesBelow, visitsBelow, List.map_map]
        rfl
      rw [expansion_of_not_shows hnew, List.map_append, ← hbelow, List.flatMap_cons,
        List.append_assoc, ← List.append_assoc, ← List.append_assoc]
      exact List.perm_append_comm.append_right _

/-- Every module that a walk shows is reached from a pending visit. -/
theorem Walk.exists_reaches (h : r.Walk written pending lines) :
    ∀ l ∈ lines, ∃ v ∈ pending, r.Reaches v.id l.id := by
  induction h with
  | done => simp
  | @line written v pending lines h ih =>
    intro l hl
    rcases List.mem_cons.1 hl with rfl | hl
    · exact ⟨v, List.mem_cons_self, .refl⟩
    · obtain ⟨w, hw, hreaches⟩ := ih l hl
      rcases List.mem_append.1 hw with hw | hw
      · exact ⟨v, List.mem_cons_self, .head (ancestors_of_mem_expansion hw).2 hreaches⟩
      · exact ⟨w, List.mem_cons_of_mem v hw, hreaches⟩

end DesignAtlas.Registry
