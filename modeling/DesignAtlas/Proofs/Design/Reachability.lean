import DesignAtlas.Proofs.Design.Links
import Mathlib.Data.Set.Finite.Basic
import Mathlib.Logic.Relation
import Mathlib.Order.WellFounded

/-!
# Reaching modules

The instantiations of a design make a graph of its modules. Followed backwards from a module they
end at a root or go round in a cycle.

* `Instantiates`: one module instantiates another one.
* `Rooted`: a root reaches the module.
* `Cyclic`: the module lies on a cycle.
* `rooted_or_reached_from_cycle`: a module that no root reaches is reached from a cycle.
-/

namespace DesignAtlas.Registry

/-- One module instantiates another one. -/
def Instantiates (r : Registry) (parent child : ModuleId) : Prop :=
  ∃ i ∈ r.instantiations, i.parent = parent ∧ i.child = child

/-- One module reaches another one in any number of instantiations. -/
def Reaches (r : Registry) : ModuleId → ModuleId → Prop :=
  Relation.ReflTransGen r.Instantiates

/-- Some root reaches a module. -/
def Rooted (r : Registry) (id : ModuleId) : Prop :=
  ∃ root ∈ r.roots, r.Reaches root id

/-- A module lies on a cycle of instantiations: it reaches itself in one of them at least. -/
def Cyclic (r : Registry) (id : ModuleId) : Prop :=
  Relation.TransGen r.Instantiates id id

/-- Instantiations are recorded between known modules only. -/
def IsClosed (r : Registry) : Prop :=
  ∀ i ∈ r.instantiations, i.parent ∈ r.ids ∧ i.child ∈ r.ids

variable {r : Registry} {parent child id : ModuleId}

theorem instantiates_iff :
    r.Instantiates parent child ↔ ∃ label, (label, child) ∈ r.submodules parent := by
  simp only [mem_submodules_iff]
  constructor
  · rintro ⟨i, hi, rfl, rfl⟩
    exact ⟨i.label, hi⟩
  · rintro ⟨label, hi⟩
    exact ⟨_, hi, rfl, rfl⟩

/-- A module that reaches another one in one step at least has instances in it. -/
theorem submodules_ne_nil_of_transGen (h : Relation.TransGen r.Instantiates parent id) :
    r.submodules parent ≠ [] := by
  obtain ⟨child, hstep, -⟩ := Relation.TransGen.head'_iff.1 h
  obtain ⟨label, hlabel⟩ := instantiates_iff.1 hstep
  exact List.ne_nil_of_mem hlabel

/-- The modules further up on a way reach those further down. -/
theorem transGen_of_isChain {way : List ModuleId} {m : ModuleId}
    (h : (id :: way).IsChain fun child parent => r.Instantiates parent child) (hm : m ∈ way) :
    Relation.TransGen r.Instantiates m id := by
  induction way generalizing id with
  | nil => exact absurd hm List.not_mem_nil
  | cons parent way ih =>
    obtain ⟨hstep, hway⟩ := List.isChain_cons_cons.1 h
    rcases List.mem_cons.1 hm with rfl | hm
    · exact .single hstep
    · exact (ih hway hm).tail hstep

theorem IsClosed.parent_mem_ids (hr : r.IsClosed) (h : r.Instantiates parent child) :
    parent ∈ r.ids := by
  obtain ⟨i, hi, rfl, -⟩ := h
  exact (hr i hi).1

theorem IsClosed.child_mem_ids (hr : r.IsClosed) (h : r.Instantiates parent child) :
    child ∈ r.ids := by
  obtain ⟨i, hi, -, rfl⟩ := h
  exact (hr i hi).2

/-- Linking records instantiations between known modules only. -/
theorem isClosed_link (hr : r.instantiations = []) : r.link.IsClosed :=
  fun _ hi => ids_of_mem_instantiations_link hr hi

/-- Only known modules reach a known module. -/
theorem IsClosed.mem_ids_of_reaches (hr : r.IsClosed) (hid : id ∈ r.ids) {start : ModuleId}
    (h : r.Reaches start id) : start ∈ r.ids := by
  rcases Relation.ReflTransGen.cases_head h with rfl | ⟨next, hstep, -⟩
  · exact hid
  · exact hr.parent_mem_ids hstep

/-- A module that no root reaches is reached from a cycle. -/
theorem rooted_or_reached_from_cycle (hr : r.IsClosed) (hid : id ∈ r.ids) :
    r.Rooted id ∨ ∃ m, r.Cyclic m ∧ r.Reaches m id := by
  by_cases hcycle : ∃ m, r.Cyclic m ∧ r.Reaches m id
  · exact .inr hcycle
  left
  -- the modules that reach this one are finitely many, and none of them reaches itself
  let Above := {m // r.Reaches m id}
  let above : Above → Above → Prop := fun a b => Relation.TransGen r.Instantiates a b
  have hfinite : Finite Above :=
    (List.finite_toSet r.ids).subset fun m hm => hr.mem_ids_of_reaches hid hm
  have htrans : IsTrans Above above := ⟨fun _ _ _ => Relation.TransGen.trans⟩
  have hirrefl : Std.Irrefl above := ⟨fun a ha => hcycle ⟨a, ha, a.2⟩⟩
  -- so one of them stands above all others
  obtain ⟨top, -, htop⟩ := (Finite.wellFounded_of_trans_of_irrefl above).has_min Set.univ
    ⟨⟨id, .refl⟩, trivial⟩
  refine ⟨top, mem_roots_iff.2 ⟨hr.mem_ids_of_reaches hid top.2, ?_⟩, top.2⟩
  intro i hi hchild
  have hstep : r.Instantiates i.parent top := ⟨i, hi, rfl, hchild⟩
  exact htop ⟨i.parent, .head hstep top.2⟩ trivial (.single hstep)

end DesignAtlas.Registry
