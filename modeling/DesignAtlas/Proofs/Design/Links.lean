import DesignAtlas.Proofs.Design.FileClosure
import DesignAtlas.Workspace.Analysis
import Mathlib.Data.List.Nodup

/-!
# Links between modules

Linking goes through the names of the modules, and through the definitions of every name. What it
records for one pair of modules does not depend on that: it is what the body of the one module
instantiates under the name of the other.

* `labelsBetween_link`: the instance names recorded between two modules.
* `ids_of_mem_instantiations_link`: instantiations are recorded between known modules only.
* `unreferenced_iff`: a module is unreferenced if nothing is recorded between it and any parent.
* `foldl_register`: modules with different names are registered one behind the other.
-/

namespace DesignAtlas

/-! ### Lists that hold something once -/

/-- If all other elements of a list without repeats give nothing, one element gives everything. -/
theorem flatMap_eq_of_nodup {α β : Type} {l : List α} {f : α → List β} {a : α} (hl : l.Nodup)
    (ha : a ∈ l) (hothers : ∀ b ∈ l, b ≠ a → f b = []) : l.flatMap f = f a := by
  obtain ⟨before, behind, rfl⟩ := List.append_of_mem ha
  -- on both sides of `a` stand other elements only
  have hnone : ∀ b ∈ before ++ behind, f b = [] := by
    intro b hb
    refine hothers b ?_ ?_
    · rcases List.mem_append.1 hb with hb | hb <;> simp [hb]
    · rintro rfl
      exact (List.nodup_cons.1 (List.nodup_middle.1 hl)).1 hb
  have hbefore : before.flatMap f = [] :=
    List.flatMap_eq_nil_iff.2 fun b hb => hnone b (by simp [hb])
  have hbehind : behind.flatMap f = [] :=
    List.flatMap_eq_nil_iff.2 fun b hb => hnone b (by simp [hb])
  rw [List.flatMap_append, List.flatMap_cons, hbefore, hbehind]
  simp

theorem nodup_eraseDups {α : Type} [BEq α] [LawfulBEq α] (l : List α) : l.eraseDups.Nodup := by
  induction hn : l.length using Nat.strongRecOn generalizing l with
  | ind n ih =>
    cases l with
    | nil => simp
    | cons a l =>
      -- the rest is filtered before it goes on, so only its length gets smaller
      rw [List.eraseDups_cons, List.nodup_cons]
      refine ⟨by simp [List.mem_eraseDups], ih _ ?_ _ rfl⟩
      have := List.length_filter_le (fun b => !b == a) l
      rw [List.length_cons] at hn
      omega

namespace Registry

/-- The names of the instances that one module has of another one, in the order recorded. -/
def labelsBetween (r : Registry) (parent child : ModuleId) : List String :=
  ((r.submodules parent).filter fun link => link.2 == child).map Prod.fst

variable {r : Registry} {parent child : ModuleId} {m n : Module}

theorem mem_labelsBetween_iff {label : String} :
    label ∈ r.labelsBetween parent child ↔ ⟨parent, child, label⟩ ∈ r.instantiations := by
  simp [labelsBetween, mem_submodules_iff]

/-- A module is unreferenced if nothing is recorded between it and any parent. -/
theorem unreferenced_iff : r.Unreferenced child ↔ ∀ parent, r.labelsBetween parent child = [] := by
  constructor
  · intro h parent
    refine List.eq_nil_iff_forall_not_mem.2 fun label hlabel => ?_
    exact h _ (mem_labelsBetween_iff.1 hlabel) rfl
  · rintro h ⟨parent, _, label⟩ hi rfl
    have hlabel := mem_labelsBetween_iff.2 hi
    simp only [h parent, List.not_mem_nil] at hlabel

theorem mem_roots_iff {id : ModuleId} : id ∈ r.roots ↔ id ∈ r.ids ∧ r.Unreferenced id := by
  rw [roots, List.mem_filter, decide_eq_true_eq]

/-! ### What linking records -/

theorem nodup_ids (r : Registry) : r.ids.Nodup :=
  List.nodup_range

theorem mem_ids_iff_get? {id : ModuleId} : id ∈ r.ids ↔ ∃ m, r.get? id = some m := by
  simp [get?, List.getElem?_eq_some_iff]

theorem nameOf_of_get? {id : ModuleId} (hm : r.get? id = some m) : r.nameOf id = m.name := by
  rw [nameOf, hm, Option.elim_some]

theorem mem_idsNamed_iff {name : String} {id : ModuleId} :
    id ∈ r.idsNamed name ↔ ∃ m, r.get? id = some m ∧ m.name = name := by
  simp [idsNamed, mem_idsWhere]

/-- The links of a body to one module are the body's instances of that module's name. -/
theorem filter_linksIn (hn : r.get? child = some n) (body : String) :
    ((r.linksIn body).filter fun link => link.2 == child).map Prod.fst =
      Source.instanceNames body n.name := by
  have hchild : child ∈ r.idsNamed n.name := mem_idsNamed_iff.2 ⟨n, hn, rfl⟩
  have hname : n.name ∈ r.names := by
    rw [names, List.mem_eraseDups]
    exact List.mem_map_of_mem (List.mem_of_getElem? hn)
  have honce : (r.idsNamed n.name).filter (fun id => id == child) = [child] := by
    have hnodup : (r.idsNamed n.name).Nodup := (nodup_ids r).filter _
    rw [List.filter_beq, List.count_eq_one_of_mem hnodup hchild, List.replicate_one]
  have hnames : r.names.Nodup := nodup_eraseDups _
  rw [linksIn, List.filter_flatMap, List.map_flatMap, flatMap_eq_of_nodup hnames hname]
  · -- under its own name the module gets one link for every instance
    simp only [List.filter_flatMap, List.filter_map, Function.comp_def, honce, List.map_flatMap,
      List.map_cons, List.map_nil, List.flatMap_singleton']
  · -- a link under another name leads to a module of that name
    intro name _ hne
    refine List.map_eq_nil_iff.2 (List.filter_eq_nil_iff.2 ?_)
    intro link hlink heq
    obtain ⟨label, -, hlink⟩ := List.mem_flatMap.1 hlink
    obtain ⟨id, hid, rfl⟩ := List.mem_map.1 hlink
    obtain ⟨other, hother, rfl⟩ := mem_idsNamed_iff.1 hid
    obtain rfl : id = child := by simpa using heq
    obtain rfl := Option.some_inj.1 (hother.symm.trans hn)
    exact hne rfl

/-- Of everything found, the instantiations in one module are those its own body holds. -/
theorem submodules_link (hr : r.instantiations = []) (hm : r.get? parent = some m) :
    r.link.submodules parent = r.linksIn m.body := by
  have hfound : ∀ id i, i ∈ r.foundIn id → i.parent = id := by
    intro id i hi
    unfold foundIn at hi
    split at hi
    · obtain ⟨link, -, rfl⟩ := List.mem_map.1 hi
      rfl
    · simp at hi
  have hfilter : r.found.filter (fun i => i.parent == parent) = r.foundIn parent := by
    rw [found, List.filter_flatMap,
      flatMap_eq_of_nodup (nodup_ids r) (mem_ids_iff_get?.2 ⟨m, hm⟩)]
    · exact List.filter_eq_self.2 fun i hi => by simp [hfound parent i hi]
    · -- in other bodies nothing is found for this parent
      intro id _ hne
      exact List.filter_eq_nil_iff.2 fun i hi => by simpa [hfound id i hi] using hne
  rw [submodules, link, hr, List.nil_append, hfilter, foundIn, hm]
  simp [Function.comp_def]

/-- Between two modules linking records what the body of the one instantiates under the name of the
other. -/
theorem labelsBetween_link (hr : r.instantiations = []) (hm : r.get? parent = some m)
    (hn : r.get? child = some n) :
    r.link.labelsBetween parent child = Source.instanceNames m.body n.name := by
  rw [labelsBetween, submodules_link hr hm, filter_linksIn hn]

/-- Linking records instantiations between known modules only. -/
theorem ids_of_mem_instantiations_link (hr : r.instantiations = []) {i : Instantiation}
    (hi : i ∈ r.link.instantiations) : i.parent ∈ r.ids ∧ i.child ∈ r.ids := by
  rw [link, hr, List.nil_append, found, List.mem_flatMap] at hi
  obtain ⟨id, hid, hi⟩ := hi
  unfold foundIn at hi
  split at hi
  · obtain ⟨link, hlink, rfl⟩ := List.mem_map.1 hi
    obtain ⟨name, -, hlink⟩ := List.mem_flatMap.1 hlink
    obtain ⟨label, -, hlink⟩ := List.mem_flatMap.1 hlink
    obtain ⟨child, hchild, rfl⟩ := List.mem_map.1 hlink
    obtain ⟨n, hn, -⟩ := mem_idsNamed_iff.1 hchild
    exact ⟨hid, mem_ids_iff_get?.2 ⟨n, hn⟩⟩
  · simp at hi

/-! ### Registering modules one behind the other -/

theorem instantiations_foldl_register (ms : List Module) (r : Registry) :
    (ms.foldl (fun r m => (r.register m).1) r).instantiations = r.instantiations := by
  induction ms generalizing r with
  | nil => rfl
  | cons m ms ih => rw [List.foldl_cons, ih, instantiations_register]

/-- A module with a name that no module has yet comes last. -/
theorem register_of_new_name (hm : m.name ∉ r.modules.map Module.name) :
    (r.register m).1 = ⟨r.modules ++ [m], r.instantiations⟩ := by
  have hnone : r.modules.findIdx? (fun known => decide (known.SameKey m)) = none := by
    rw [List.findIdx?_eq_none_iff]
    intro known hknown
    refine decide_eq_false fun hsame => hm ?_
    exact hsame.1 ▸ List.mem_map_of_mem hknown
  rw [register, hnone]

/-- Modules with different names are registered one behind the other. -/
theorem foldl_register {ms : List Module} {r : Registry}
    (h : ((r.modules ++ ms).map Module.name).Nodup) :
    ms.foldl (fun r m => (r.register m).1) r = ⟨r.modules ++ ms, r.instantiations⟩ := by
  induction ms generalizing r with
  | nil => simp
  | cons m ms ih =>
    have hm : m.name ∉ r.modules.map Module.name := by
      rw [List.map_append, List.map_cons, List.nodup_middle, List.nodup_cons] at h
      exact fun hmem => h.1 (List.mem_append_left _ hmem)
    have happend : r.modules ++ [m] ++ ms = r.modules ++ m :: ms := by
      rw [List.append_assoc, List.singleton_append]
    rw [List.foldl_cons, register_of_new_name hm, ih (by rwa [happend]), happend]

end Registry

end DesignAtlas
