import DesignAtlas.Proofs.Design.Links
import DesignAtlas.Proofs.Text.Places

/-!
# The order of links

Linking goes through the names of the modules, for each name through the places of a body, and for
each place through the definitions of the name. So the instances in a module are recorded in the
order of these three, and their number is the number of everything recorded.

* `Source.placedInstances`: the instances in a body with the offsets where they were found.
* `Precedes`: the order by name, by place and by definition.
* `pairwise_placedLinks`: the links of a body stand in this order.
* `record_found`: linking records what it finds one behind the other.
* `recorded_by_link`: everything that linking records about the modules of a registry.
-/

namespace DesignAtlas

/-! ### Places of instances -/

namespace Text

/-- Occurrences come in increasing order of offset. -/
theorem pairwise_offset_occurrencesFrom (head : Char) (tail : List Char) (c : Cursor) :
    (∀ d ∈ occurrencesFrom head tail c, c.offset ≤ d.offset) ∧
      (occurrencesFrom head tail c).Pairwise fun d e => d.offset < e.offset := by
  fun_induction occurrencesFrom head tail c with
  | case1 => simp
  | case2 c hrest hhit ih =>
    -- what is found behind a hit comes later
    have hlt := Cursor.offset_lt_offset_advance hrest tail.length
    refine ⟨fun d hd => ?_, List.pairwise_cons.2 ⟨fun d hd => ?_, ih.2⟩⟩
    · rcases List.mem_cons.1 hd with rfl | hd
      · exact Nat.le_refl _
      · exact Nat.le_trans (Nat.le_of_lt hlt) (ih.1 d hd)
    · exact Nat.lt_of_lt_of_le hlt (ih.1 d hd)
  | case3 c hrest hmiss ih =>
    exact ⟨fun d hd => Nat.le_trans (Cursor.offset_le_offset_advance c 1) (ih.1 d hd), ih.2⟩

theorem pairwise_offset_occurrences (needle text : List Char) :
    (occurrences needle text).Pairwise fun c d => c.offset < d.offset := by
  cases needle with
  | nil => exact .nil
  | cons head tail => exact (pairwise_offset_occurrencesFrom head tail _).2

end Text

namespace Source

open Text

/-- The instances of a module in a body, each with the offset at which the module's name stands. -/
def placedInstances (body moduleName : String) : List (Nat × String) :=
  (occurrences moduleName.toList body.toList).filterMap fun c =>
    (instanceAt? moduleName.toList c).map fun label => (c.offset, String.ofList label)

theorem map_snd_placedInstances (body moduleName : String) :
    (placedInstances body moduleName).map Prod.snd = instanceNames body moduleName := by
  rw [placedInstances, instanceNames, List.map_filterMap]
  simp [Function.comp_def]

theorem pairwise_placedInstances (body moduleName : String) :
    (placedInstances body moduleName).Pairwise fun a b => a.1 < b.1 := by
  refine List.pairwise_filterMap.2 ((pairwise_offset_occurrences _ _).imp ?_)
  intro c d hlt a ha b hb
  obtain ⟨_, -, rfl⟩ := Option.map_eq_some_iff.1 ha
  obtain ⟨_, -, rfl⟩ := Option.map_eq_some_iff.1 hb
  exact hlt

end Source

/-- An instance found in a body. -/
structure PlacedLink where
  /-- The offset at which the name of the module stands. -/
  offset : Nat
  /-- The name of the instance. -/
  label : String
  /-- The module that it is an instance of. -/
  child : ModuleId
  deriving DecidableEq, Repr

namespace Registry

/-- One link stands before another one: the name of its module was registered first, or the names
are the same and it stands further in front, or both come from one place and the definition it
leads to was registered first. -/
def Precedes (r : Registry) (k l : PlacedLink) : Prop :=
  r.names.idxOf (r.nameOf k.child) < r.names.idxOf (r.nameOf l.child) ∨
    r.nameOf k.child = r.nameOf l.child ∧
      (k.offset < l.offset ∨ k.offset = l.offset ∧ k.child < l.child)

/-- The links of a body with their places. -/
def placedLinks (r : Registry) (body : String) : List PlacedLink :=
  r.names.flatMap fun name =>
    (Source.placedInstances body name).flatMap fun found =>
      (r.idsNamed name).map fun child => ⟨found.1, found.2, child⟩

variable {r : Registry} {body name : String} {l : PlacedLink}

theorem mem_placedLinks_iff :
    l ∈ r.placedLinks body ↔ ∃ m, r.get? l.child = some m ∧
      (l.offset, l.label) ∈ Source.placedInstances body m.name := by
  obtain ⟨offset, label, child⟩ := l
  simp only [placedLinks, List.mem_flatMap, List.mem_map, PlacedLink.mk.injEq, mem_idsNamed_iff]
  constructor
  · rintro ⟨_, -, found, hfound, child, ⟨m, hm, rfl⟩, rfl, rfl, rfl⟩
    exact ⟨m, hm, hfound⟩
  · rintro ⟨m, hm, hfound⟩
    refine ⟨m.name, ?_, _, hfound, child, ⟨m, hm, rfl⟩, rfl, rfl, rfl⟩
    rw [names, List.mem_eraseDups]
    exact List.mem_map_of_mem (List.mem_of_getElem? hm)

/-- Without their places these are the links of the body. -/
theorem map_placedLinks (r : Registry) (body : String) :
    (r.placedLinks body).map (fun l => (l.label, l.child)) = r.linksIn body := by
  rw [placedLinks, linksIn, List.map_flatMap]
  refine List.flatMap_congr fun name _ => ?_
  rw [← Source.map_snd_placedInstances, List.map_flatMap, List.flatMap_map]
  refine List.flatMap_congr fun found _ => ?_
  rw [List.map_map]
  rfl

theorem pairwise_idsNamed (r : Registry) (name : String) :
    (r.idsNamed name).Pairwise fun a b => a < b :=
  List.pairwise_lt_range.filter _

theorem nodup_names (r : Registry) : r.names.Nodup :=
  nodup_eraseDups _

/-- The names stand in the order of their places in the list of names. -/
theorem pairwise_idxOf_names (r : Registry) :
    r.names.Pairwise fun a b => r.names.idxOf a < r.names.idxOf b := by
  rw [List.pairwise_iff_getElem]
  intro i j hi hj hlt
  rwa [(nodup_names r).idxOf_getElem i hi, (nodup_names r).idxOf_getElem j hj]

theorem nameOf_of_mem_idsNamed {id : ModuleId} (h : id ∈ r.idsNamed name) :
    r.nameOf id = name := by
  obtain ⟨m, hm, rfl⟩ := mem_idsNamed_iff.1 h
  exact nameOf_of_get? hm

/-- The links of a body stand in the order of names, places and definitions. -/
theorem pairwise_placedLinks (r : Registry) (body : String) :
    (r.placedLinks body).Pairwise r.Precedes := by
  have hname : ∀ name, ∀ l ∈ (Source.placedInstances body name).flatMap (fun found =>
      (r.idsNamed name).map fun child => (⟨found.1, found.2, child⟩ : PlacedLink)),
        r.nameOf l.child = name := by
    intro name l hl
    obtain ⟨found, -, hl⟩ := List.mem_flatMap.1 hl
    obtain ⟨child, hchild, rfl⟩ := List.mem_map.1 hl
    exact nameOf_of_mem_idsNamed hchild
  refine List.pairwise_flatMap.2 ⟨fun name _ => ?_, ?_⟩
  · refine List.pairwise_flatMap.2 ⟨fun found _ => ?_, ?_⟩
    · -- one place: by definition
      refine List.pairwise_map.2 ?_
      refine (pairwise_idsNamed r name).imp_of_mem fun {a b} ha hb hlt => ?_
      have hsame := (nameOf_of_mem_idsNamed ha).trans (nameOf_of_mem_idsNamed hb).symm
      exact .inr ⟨hsame, .inr ⟨rfl, hlt⟩⟩
    · -- one name: by place
      refine (Source.pairwise_placedInstances body name).imp fun {found found'} hlt k hk l hl => ?_
      obtain ⟨a, ha, rfl⟩ := List.mem_map.1 hk
      obtain ⟨b, hb, rfl⟩ := List.mem_map.1 hl
      have hsame := (nameOf_of_mem_idsNamed ha).trans (nameOf_of_mem_idsNamed hb).symm
      exact .inr ⟨hsame, .inl hlt⟩
  · -- by name
    refine (pairwise_idxOf_names r).imp fun {name name'} hlt k hk l hl => ?_
    left
    rwa [hname name k hk, hname name' l hl]

/-! ### Recording -/

/-- Recording one by one appends everything, and counts it. -/
theorem record_eq (r : Registry) (found : List Instantiation) :
    r.record found = ({ r with instantiations := r.instantiations ++ found }, found.length) := by
  let step : Registry × Nat → Instantiation → Registry × Nat := fun recorded i =>
    (recorded.1.addInstantiation i.parent i.child i.label, recorded.2 + 1)
  have hfold : ∀ (r : Registry) (count : Nat), found.foldl step (r, count) =
      ({ r with instantiations := r.instantiations ++ found }, count + found.length) := by
    induction found with
    | nil => simp
    | cons i found ih =>
      intro r count
      rw [List.foldl_cons, ih]
      simp [addInstantiation, Nat.add_assoc, Nat.add_comm 1]
  have hrecord := hfold r 0
  rwa [Nat.zero_add] at hrecord

/-- Linking records what it finds one behind the other. -/
theorem record_found (hr : r.instantiations = []) :
    r.record r.found = (r.link, r.link.instantiations.length) := by
  rw [record_eq, link, hr]
  rfl

/-- A module is a root after linking if no body instantiates its name. -/
theorem mem_roots_link_iff (hr : r.instantiations = []) {child : ModuleId} {n : Module}
    (hn : r.get? child = some n) :
    child ∈ r.link.roots ↔
      ∀ parent m, r.get? parent = some m → Source.instanceNames m.body n.name = [] := by
  have hknown : child ∈ r.link.ids := mem_ids_iff_get?.2 ⟨n, hn⟩
  rw [mem_roots_iff, and_iff_right hknown, unreferenced_iff]
  constructor
  · intro hfree parent m hm
    rw [← labelsBetween_link hr hm hn]
    exact hfree parent
  · intro hnone parent
    refine List.eq_nil_iff_forall_not_mem.2 fun label hlabel => ?_
    -- only known modules can be parents
    have hparent := (ids_of_mem_instantiations_link hr (mem_labelsBetween_iff.1 hlabel)).1
    obtain ⟨m, hm⟩ := mem_ids_iff_get?.1 hparent
    rw [labelsBetween_link hr hm hn, hnone parent m hm] at hlabel
    exact List.not_mem_nil hlabel

/-- What linking records in a registry without instantiations. Between two modules stand the
instances that the body of the one holds of the name of the other, the instances in one module stand
in the order of names, places and definitions, they are counted, and the roots are the modules whose
names no body instantiates. -/
theorem recorded_by_link (hr : r.instantiations = []) :
    (∀ parent m child n, r.get? parent = some m → r.get? child = some n →
      r.link.labelsBetween parent child = Source.instanceNames m.body n.name) ∧
    (∀ parent m, r.get? parent = some m → ∃ placed : List PlacedLink,
      r.link.submodules parent = placed.map (fun l => (l.label, l.child)) ∧
      placed.Pairwise r.Precedes ∧
      ∀ l ∈ placed, ∃ n, r.get? l.child = some n ∧
        (l.offset, l.label) ∈ Source.placedInstances m.body n.name) ∧
    r.record r.found = (r.link, r.link.instantiations.length) ∧
    ∀ child n, r.get? child = some n → (child ∈ r.link.roots ↔
      ∀ parent m, r.get? parent = some m → Source.instanceNames m.body n.name = []) := by
  refine ⟨fun _ _ _ _ hm hn => labelsBetween_link hr hm hn, fun parent m hm => ?_, record_found hr,
    fun _ _ hn => mem_roots_link_iff hr hn⟩
  refine ⟨r.placedLinks m.body, ?_, pairwise_placedLinks r m.body,
    fun l hl => mem_placedLinks_iff.1 hl⟩
  rw [submodules_link hr hm, map_placedLinks]

/-- A module that instantiates two names, of which one is defined in two files. -/
def twoDefinitions : Registry :=
  ⟨[⟨"leaf", "a.v", ⟨"a.v"⟩, 0, ""⟩,
    ⟨"top", "top.v", ⟨"top.v"⟩, 0, "  mid m (x);  leaf u (x);  leaf v (y);  "⟩,
    ⟨"mid", "a.v", ⟨"a.v"⟩, 1, ""⟩,
    ⟨"leaf", "b.v", ⟨"b.v"⟩, 0, ""⟩], []⟩

/-- Both definitions are linked to both instances, and only the module that holds them is a root. -/
theorem recorded_by_link_twoDefinitions :
    twoDefinitions.instantiations = [] ∧
      twoDefinitions.link.labelsBetween 1 0 = ["u", "v"] ∧
      twoDefinitions.link.labelsBetween 1 3 = ["u", "v"] ∧
      twoDefinitions.link.labelsBetween 1 2 = ["m"] ∧
      (twoDefinitions.record twoDefinitions.found).2 =
        twoDefinitions.link.instantiations.length ∧
      0 ∉ twoDefinitions.link.roots ∧ 1 ∈ twoDefinitions.link.roots := by
  have hnone : twoDefinitions.instantiations = [] := rfl
  obtain ⟨hlabels, -, hrecord, hroots⟩ := recorded_by_link hnone
  refine ⟨hnone, ?_, ?_, ?_, ?_, ?_, ?_⟩
  · exact (hlabels 1 _ 0 _ rfl rfl).trans (by decide +kernel)
  · exact (hlabels 1 _ 3 _ rfl rfl).trans (by decide +kernel)
  · exact (hlabels 1 _ 2 _ rfl rfl).trans (by decide +kernel)
  · rw [hrecord]
  · intro hroot
    -- the body of the second module instantiates the name
    exact absurd ((hroots 0 _ rfl).1 hroot 1 _ rfl) (by decide +kernel)
  · refine (hroots 1 _ rfl).2 fun parent m hm => ?_
    have hmem : m ∈ twoDefinitions.modules := List.mem_of_getElem? hm
    have hall : ∀ m ∈ twoDefinitions.modules, Source.instanceNames m.body "top" = [] := by
      decide +kernel
    exact hall m hmem

end Registry

end DesignAtlas
