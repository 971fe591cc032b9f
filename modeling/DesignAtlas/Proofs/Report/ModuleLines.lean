import DesignAtlas.Proofs.Design.Cycles
import DesignAtlas.Proofs.Workspace.Requests
import DesignAtlas.Report.Outline

/-!
# The lines of modules in an outline

The outline of a project shows its modules between the included files and the other buckets. Each
line of the hierarchy is one line of text, whose end tells the marker.

* `Writes`: what the text of a line is. `forall₂_outlineLines`: the lines of text are those of the
  hierarchy.
* `text_eq_append_recursive_iff`: the end of a line of text tells whether it is recursive.
* `Project.IsOutline`: how an outline is put together. `isOutline_outline`: every outline is.
* `exists_hierarchy_of_outline`: what the outline of any project shows of its modules.
* `exists_recursive_line_iff`: the outline tells whether a root reaches a cycle.
* `shown_or_reached_from_cycle`: a module without a line is reached from a cycle.
-/

namespace DesignAtlas

open HierarchyLine

namespace Registry

/-- A text is written for a line of the hierarchy: two blanks for each module above the one shown,
the name of the instance and a dash if there is one, the name of the module, its file between
parentheses, and what the marker says. -/
def Writes (r : Registry) (text : String) (line : HierarchyLine) : Prop :=
  ∃ m, r.get? line.id = some m ∧
    text = String.ofList (List.replicate (2 * line.depth) ' ') ++
      (match line.label with
      | none => ""
      | some label => label ++ "  -  ") ++
      m.name ++ " (" ++ m.file ++ ")" ++
      (match line.marker with
      | .none => ""
      | .recursive => " [recursive]"
      | .shownAbove => " [shown above]")

variable {r : Registry}

theorem writes_iff {text : String} {line : HierarchyLine} :
    r.Writes text line ↔ ∃ m, r.get? line.id = some m ∧ text = line.text m := by
  obtain ⟨depth, label, id, marker⟩ := line
  cases label <;> cases marker <;> rfl

/-- A text is written for every line, if the lines show known modules. -/
theorem forall₂_filterMap {lines : List HierarchyLine} (h : ∀ l ∈ lines, l.id ∈ r.ids) :
    List.Forall₂ r.Writes (lines.filterMap fun l => (r.get? l.id).map l.text) lines := by
  induction lines with
  | nil => exact .nil
  | cons l lines ih =>
    obtain ⟨hl, hlines⟩ := List.forall_mem_cons.1 h
    obtain ⟨m, hm⟩ := mem_ids_iff_get?.1 hl
    rw [List.filterMap_cons, hm]
    exact .cons (writes_iff.2 ⟨m, hm, rfl⟩) (ih hlines)

/-- The hierarchy shows known modules. -/
theorem mem_ids_of_mem_hierarchy (hr : r.IsClosed) {l : HierarchyLine} (hl : l ∈ r.hierarchy) :
    l.id ∈ r.ids := by
  obtain ⟨root, hroot, hreaches⟩ := (shows_hierarchy_iff hr).1 (shows_of_mem hl)
  have hrootKnown : root ∈ r.ids := (mem_roots_iff.1 hroot).1
  rcases Relation.ReflTransGen.cases_tail hreaches with hid | ⟨parent, -, hstep⟩
  · exact hid ▸ hrootKnown
  · exact hr.child_mem_ids hstep

/-- The lines of text are those of the hierarchy, one for one. -/
theorem forall₂_outlineLines (hr : r.IsClosed) :
    List.Forall₂ r.Writes r.outlineLines r.hierarchy :=
  forall₂_filterMap fun _ hl => mem_ids_of_mem_hierarchy hr hl

theorem mem_outlineLines_iff {text : String} :
    text ∈ r.outlineLines ↔ ∃ line ∈ r.hierarchy, r.Writes text line := by
  rw [outlineLines, List.mem_filterMap]
  refine exists_congr fun line => and_congr_right fun _ => ?_
  rw [Option.map_eq_some_iff, writes_iff]
  exact exists_congr fun m => and_congr_right fun _ => eq_comm

end Registry

/-! ### The end of a line -/

/-- Of two ends of one text one ends in the other. -/
theorem suffix_or_suffix_of_append_eq {front front' ending ending' : String}
    (h : front ++ ending = front' ++ ending') :
    ending.toList <:+ ending'.toList ∨ ending'.toList <:+ ending.toList := by
  have hlist := congrArg String.toList h
  rw [String.toList_append, String.toList_append] at hlist
  exact List.suffix_or_suffix_of_suffix (hlist ▸ List.suffix_append _ _) (List.suffix_append _ _)

/-- A line of text ends in the text of the recursive marker exactly if the line has this marker. -/
theorem HierarchyLine.text_eq_append_recursive_iff {line : HierarchyLine} {m : Module} :
    (∃ front, line.text m = front ++ " [recursive]") ↔ line.marker = .recursive := by
  constructor
  · rintro ⟨front, hfront⟩
    rw [HierarchyLine.text] at hfront
    cases hmarker : line.marker with
    | recursive => rfl
    | none =>
      -- without a marker a line ends in a parenthesis
      rw [hmarker, Marker.text, String.append_empty] at hfront
      rcases suffix_or_suffix_of_append_eq hfront with h | h <;> exact absurd h (by decide)
    | shownAbove =>
      rw [hmarker, Marker.text] at hfront
      rcases suffix_or_suffix_of_append_eq hfront with h | h <;> exact absurd h (by decide)
  · intro hmarker
    rw [HierarchyLine.text, hmarker]
    exact ⟨_, rfl⟩

/-! ### The outline of a project -/

namespace Project

/-- Some texts are those of the modules in an outline: the outline puts them between the included
files and the other buckets, each on a line of its own, and says so if there is nothing to show. -/
structure IsOutline (p : Project) (texts : List String) (outline : String) : Prop where
  /-- Without any line the outline says that there is nothing. -/
  nothing : p.bucketLines (· == "`includes") ++ texts ++ p.bucketLines (· != "`includes") = [] →
    outline = "No verilog project in this directory\n"
  /-- With any line it is made of the lines. -/
  lines : p.bucketLines (· == "`includes") ++ texts ++ p.bucketLines (· != "`includes") ≠ [] →
    outline = String.join ((p.bucketLines (· == "`includes") ++ texts ++
      p.bucketLines (· != "`includes")).map fun text => text ++ "\n")

theorem isOutline_outline (p : Project) : p.IsOutline p.registry.outlineLines p.outline := by
  have hlines : p.bucketLines (· == "`includes") ++ p.registry.outlineLines ++
      p.bucketLines (· != "`includes") = p.outlineLines := rfl
  refine ⟨fun hnothing => ?_, fun hsome => ?_⟩
  · rw [outline, ← hlines, hnothing]
  · rw [outline, ← hlines]
    split
    · next hnothing => exact absurd hnothing hsome
    · rfl

/-- The outline of a project, whatever was asked of it before, shows the hierarchy of its
modules. -/
theorem exists_hierarchy_of_outline (root : Path) (requests : List Request) :
    let p := (ofRoot root).after requests
    ∃ texts lines, p.IsOutline texts p.outline ∧
      List.Forall₂ p.registry.Writes texts lines ∧ p.registry.IsHierarchy lines := by
  intro p
  have hclosed : p.registry.IsClosed := isClosed_registry_after root requests
  exact ⟨p.registry.outlineLines, p.registry.hierarchy, isOutline_outline p,
    Registry.forall₂_outlineLines hclosed, Registry.isHierarchy_hierarchy hclosed⟩

/-- The lines of modules in the outline of a project are those of a hierarchy. One of them ends in
the recursive marker exactly if a root reaches a module on a cycle. -/
theorem exists_recursive_line_iff (root : Path) (requests : List Request) :
    let p := (ofRoot root).after requests
    let r := p.registry
    p.IsOutline r.outlineLines p.outline ∧
      List.Forall₂ r.Writes r.outlineLines r.hierarchy ∧
      ((∃ text ∈ r.outlineLines, ∃ front, text = front ++ " [recursive]") ↔
        ∃ id, r.Rooted id ∧ r.Cyclic id) := by
  intro p r
  have hclosed : r.IsClosed := isClosed_registry_after root requests
  refine ⟨isOutline_outline p, Registry.forall₂_outlineLines hclosed, ?_⟩
  rw [← (Registry.isHierarchy_hierarchy hclosed).exists_recursive_iff]
  constructor
  · rintro ⟨text, htext, hrecursive⟩
    obtain ⟨line, hline, hwrites⟩ := Registry.mem_outlineLines_iff.1 htext
    obtain ⟨m, -, rfl⟩ := Registry.writes_iff.1 hwrites
    exact ⟨line, hline, HierarchyLine.text_eq_append_recursive_iff.1 hrecursive⟩
  · rintro ⟨line, hline, hmarker⟩
    obtain ⟨m, hm⟩ := Registry.mem_ids_iff_get?.1 (Registry.mem_ids_of_mem_hierarchy hclosed hline)
    have hwrites : r.Writes (line.text m) line := Registry.writes_iff.2 ⟨m, hm, rfl⟩
    refine ⟨line.text m, Registry.mem_outlineLines_iff.2 ⟨line, hline, hwrites⟩, ?_⟩
    exact HierarchyLine.text_eq_append_recursive_iff.2 hmarker

/-- Every module of a project has a line in its outline or is reached from a cycle. So all modules
have lines if there is no cycle. -/
theorem shown_or_reached_from_cycle (root : Path) (requests : List Request) :
    let p := (ofRoot root).after requests
    let r := p.registry
    ∃ texts lines, p.IsOutline texts p.outline ∧ List.Forall₂ r.Writes texts lines ∧
      (∀ id ∈ r.ids, (∃ line ∈ lines, line.id = id) ∨ ∃ m, r.Cyclic m ∧ r.Reaches m id) ∧
      ((∀ m, ¬r.Cyclic m) → ∀ id ∈ r.ids, ∃ line ∈ lines, line.id = id) := by
  intro p r
  have hclosed : r.IsClosed := isClosed_registry_after root requests
  have hall : ∀ id ∈ r.ids,
      (∃ line ∈ r.hierarchy, line.id = id) ∨ ∃ m, r.Cyclic m ∧ r.Reaches m id := fun id hid =>
    (Registry.rooted_or_reached_from_cycle hclosed hid).imp_left
      (Registry.shows_hierarchy_iff hclosed).2
  refine ⟨r.outlineLines, r.hierarchy, isOutline_outline p,
    Registry.forall₂_outlineLines hclosed, hall, fun hacyclic id hid => ?_⟩
  rcases hall id hid with hline | ⟨m, hm, -⟩
  · exact hline
  · exact absurd hm (hacyclic m)

end Project

end DesignAtlas
