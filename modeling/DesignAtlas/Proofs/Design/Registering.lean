import DesignAtlas.Proofs.Design.Links
import Mathlib.Data.List.Induction

/-!
# Registering modules

A module is registered under its key: its name and the components of its path. A key keeps the
place at which it was registered first, and holds the module that was registered last.

* `latest`: of the elements of a list those that are the last ones with their keys, in the order in
  which the keys come first.
* `latest_append`, `latest_flatMap`: lists that share no key are taken one by one.
* `latest_map`: elements with keys of another kind are taken alike.
* `latest_of_nodup`: elements with different keys are all kept.
* `register_eq`: one more module is registered.
* `modules_foldl_register`: the modules of a registry are the latest ones.
* `eq_of_key_eq`: the key of a module determines its id.
-/

namespace DesignAtlas

/-! ### The last elements with their keys -/

section Latest

variable {α β κ : Type} [BEq κ] [LawfulBEq κ] {key : α → κ} {l : List α} {a : α}

/-- The elements of a list that are the last ones with their keys, in the order in which the keys
come first. -/
def latest (key : α → κ) (l : List α) : List α :=
  (l.map key).eraseDups.filterMap fun k => l.findRev? fun a => key a == k

/-- One more element is kept without its repeats if it is new. -/
theorem eraseDups_concat {l : List κ} {k : κ} :
    (l ++ [k]).eraseDups = if k ∈ l then l.eraseDups else l.eraseDups ++ [k] := by
  rw [List.eraseDups_append]
  by_cases hk : k ∈ l
  · simp [List.removeAll, hk]
  · simp [List.removeAll, hk, List.eraseDups_cons]

/-- Repeats can be erased before a map as well. -/
theorem eraseDups_map_eraseDups [BEq β] [LawfulBEq β] (f : κ → β) (l : List κ) :
    (l.eraseDups.map f).eraseDups = (l.map f).eraseDups := by
  induction l using List.reverseRecOn with
  | nil => rfl
  | append_singleton l k ih =>
    rw [List.map_append, List.map_singleton, eraseDups_concat, eraseDups_concat]
    by_cases hk : k ∈ l
    · rw [if_pos hk, if_pos (List.mem_map_of_mem hk), ih]
    · have hmem : f k ∈ l.eraseDups.map f ↔ f k ∈ l.map f := by
        simp only [List.mem_map, List.mem_eraseDups]
      rw [if_neg hk, List.map_append, List.map_singleton, eraseDups_concat, ih]
      simp only [hmem]

theorem eraseDups_map_of_injective [BEq β] [LawfulBEq β] {f : κ → β} (hf : Function.Injective f)
    (l : List κ) : (l.map f).eraseDups = l.eraseDups.map f := by
  induction l using List.reverseRecOn with
  | nil => rfl
  | append_singleton l k ih =>
    rw [List.map_append, List.map_singleton, eraseDups_concat, eraseDups_concat, ih]
    by_cases hk : k ∈ l
    · rw [if_pos hk, if_pos (List.mem_map_of_mem hk)]
    · rw [if_neg hk, if_neg (mt (List.mem_map_of_injective hf).1 hk), List.map_append,
        List.map_singleton]

theorem findRev?_concat {p : α → Bool} :
    (l ++ [a]).findRev? p = if p a then some a else l.findRev? p := by
  rw [List.findRev?_eq_find?_reverse, List.findRev?_eq_find?_reverse, List.reverse_append,
    List.reverse_singleton, List.singleton_append, List.find?_cons]
  cases p a <;> rfl

/-- Some element is the last one with its key. -/
theorem exists_findRev?_eq_some {k : κ} (hk : k ∈ l.map key) :
    ∃ a, l.findRev? (fun a => key a == k) = some a ∧ key a = k := by
  obtain ⟨b, hb, rfl⟩ := List.mem_map.1 hk
  rw [List.findRev?_eq_find?_reverse]
  cases hfind : l.reverse.find? fun a => key a == key b with
  | none => simpa using List.find?_eq_none.1 hfind b (by simpa using hb)
  | some a => exact ⟨a, rfl, by simpa using List.find?_some hfind⟩

/-- At every place stands the last element with the key of this place. -/
theorem getElem?_latest (i : Nat) :
    (latest key l)[i]? =
      (l.map key).eraseDups[i]?.bind fun k => l.findRev? fun a => key a == k := by
  -- no key is left out, whatever part of the keys is looked at
  have hall : ∀ keys : List κ, (∀ k ∈ keys, k ∈ l.map key) → ∀ i : Nat,
      (keys.filterMap fun k => l.findRev? fun a => key a == k)[i]? =
        keys[i]?.bind fun k => l.findRev? fun a => key a == k := by
    intro keys
    induction keys with
    | nil => simp
    | cons k keys ih =>
      intro hkeys i
      obtain ⟨a, ha, -⟩ := exists_findRev?_eq_some (hkeys k (by simp))
      rw [List.filterMap_cons, ha]
      cases i with
      | zero => exact ha.symm
      | succ i => exact ih (fun k hk => hkeys k (by simp [hk])) i
  exact hall _ (fun k hk => List.mem_eraseDups.1 hk) i

@[simp]
theorem map_key_latest : (latest key l).map key = (l.map key).eraseDups := by
  refine List.ext_getElem? fun i => ?_
  rw [List.getElem?_map, getElem?_latest]
  cases hi : (l.map key).eraseDups[i]? with
  | none => rfl
  | some k =>
    obtain ⟨a, ha, rfl⟩ :=
      exists_findRev?_eq_some (List.mem_eraseDups.1 (List.mem_of_getElem? hi))
    rw [Option.bind_some, ha, Option.map_some]

/-- One more element takes the place of its key. -/
theorem latest_concat_of_mem (h : key a ∈ l.map key) :
    latest key (l ++ [a]) =
      (latest key l).set ((l.map key).eraseDups.idxOf (key a)) a := by
  have hkeys : ((l ++ [a]).map key).eraseDups = (l.map key).eraseDups := by
    rw [List.map_append, List.map_singleton, eraseDups_concat, if_pos h]
  have hmem : key a ∈ (l.map key).eraseDups := List.mem_eraseDups.2 h
  refine List.ext_getElem? fun i => ?_
  rw [getElem?_latest, hkeys, List.getElem?_set, getElem?_latest]
  have hlength : (latest key l).length = (l.map key).eraseDups.length := by
    rw [← map_key_latest, List.length_map]
  by_cases hi : (l.map key).eraseDups.idxOf (key a) = i
  · -- the place of the key itself
    have hlt : i < (latest key l).length := by
      rw [hlength, ← hi]
      exact List.idxOf_lt_length_of_mem hmem
    rw [if_pos hi, if_pos (hi ▸ hlt), ← hi, List.getElem?_idxOf hmem, Option.bind_some,
      findRev?_concat, beq_self_eq_true, if_pos rfl]
  · rw [if_neg hi]
    cases hk : (l.map key).eraseDups[i]? with
    | none => rfl
    | some k =>
      -- another place belongs to another key
      have hne : key a ≠ k := by
        rintro rfl
        obtain ⟨hlt, hget⟩ := List.getElem?_eq_some_iff.1 hk
        exact hi (hget ▸ (nodup_eraseDups _).idxOf_getElem i hlt)
      rw [Option.bind_some, Option.bind_some, findRev?_concat, if_neg (by simpa using hne)]

/-- Lists that share no key are taken one by one. -/
theorem latest_append {l' : List α} (h : ∀ a ∈ l, ∀ b ∈ l', key a ≠ key b) :
    latest key (l ++ l') = latest key l ++ latest key l' := by
  have hremove : (l'.map key).removeAll (l.map key) = l'.map key := by
    refine List.filter_eq_self.2 fun k hk => ?_
    obtain ⟨b, hb, rfl⟩ := List.mem_map.1 hk
    simpa using fun a ha => h a ha b hb
  rw [latest, List.map_append, List.eraseDups_append, hremove, List.filterMap_append]
  congr 1
  · refine List.filterMap_congr fun k hk => ?_
    obtain ⟨a, ha, rfl⟩ := List.mem_map.1 (List.mem_eraseDups.1 hk)
    -- the second list has no element with a key of the first one
    have hnone : l'.reverse.find? (fun b => key b == key a) = none :=
      List.find?_eq_none.2 fun b hb => by simpa using (h a ha b (by simpa using hb)).symm
    rw [List.findRev?_eq_find?_reverse, List.findRev?_eq_find?_reverse, List.reverse_append,
      List.find?_append, hnone, Option.none_or]
  · refine List.filterMap_congr fun k hk => ?_
    obtain ⟨b, hb, -⟩ := exists_findRev?_eq_some (List.mem_eraseDups.1 hk)
    rw [hb, List.findRev?_eq_find?_reverse, List.reverse_append, List.find?_append,
      ← List.findRev?_eq_find?_reverse, hb, Option.some_or]

/-- Elements with keys of another kind are taken alike if the keys can be told apart alike. -/
theorem latest_map {γ : Type} [BEq γ] [LawfulBEq γ] {f : β → α} {key' : β → γ} {g : γ → κ}
    (hg : Function.Injective g) (hkey : ∀ b, key (f b) = g (key' b)) (l : List β) :
    latest key (l.map f) = (latest key' l).map f := by
  have hkeys : ((l.map f).map key).eraseDups = (l.map key').eraseDups.map g := by
    have hcomp : (l.map f).map key = (l.map key').map g := by
      rw [List.map_map, List.map_map]
      exact List.map_congr_left fun b _ => hkey b
    rw [hcomp, eraseDups_map_of_injective hg]
  have hfind : ∀ k, ((l.map f).findRev? fun a => key a == g k) =
      (l.findRev? fun b => key' b == k).map f := by
    intro k
    have hsame : ∀ b, (key (f b) == g k) = (key' b == k) := fun b => by
      rw [hkey, Bool.eq_iff_iff, beq_iff_eq, beq_iff_eq, hg.eq_iff]
    rw [List.findRev?_eq_find?_reverse, List.findRev?_eq_find?_reverse, ← List.map_reverse,
      List.find?_map]
    simp only [Function.comp_def, hsame]
  rw [latest, hkeys, List.filterMap_map, latest, List.map_filterMap]
  exact List.filterMap_congr fun k _ => hfind k

/-- One more element with a new key comes last. -/
theorem latest_concat_of_notMem (h : key a ∉ l.map key) :
    latest key (l ++ [a]) = latest key l ++ [a] := by
  rw [latest_append fun b hb c hc hkey => h ?_]
  · simp [latest, List.eraseDups_cons, List.findRev?]
  · obtain rfl : c = a := by simpa using hc
    exact hkey ▸ List.mem_map_of_mem hb

/-- Groups that share no key are taken one by one. -/
theorem latest_flatMap {groups : List β} {f : β → List α}
    (h : groups.Pairwise fun g g' => ∀ a ∈ f g, ∀ b ∈ f g', key a ≠ key b) :
    latest key (groups.flatMap f) = groups.flatMap fun g => latest key (f g) := by
  induction groups with
  | nil => rfl
  | cons g groups ih =>
    obtain ⟨hfirst, hrest⟩ := List.pairwise_cons.1 h
    rw [List.flatMap_cons, List.flatMap_cons, latest_append, ih hrest]
    intro a ha b hb
    obtain ⟨g', hg', hb⟩ := List.mem_flatMap.1 hb
    exact hfirst g' hg' a ha b hb

/-- Elements with different keys are all kept. -/
theorem latest_of_nodup (h : (l.map key).Nodup) : latest key l = l := by
  induction l using List.reverseRecOn with
  | nil => rfl
  | append_singleton l a ih =>
    rw [List.map_append, List.map_singleton, List.nodup_append] at h
    obtain ⟨hl, -, hdisjoint⟩ := h
    have hnew : key a ∉ l.map key := fun hmem => hdisjoint _ hmem _ (by simp) rfl
    rw [latest_concat_of_notMem hnew, ih hl]

omit [LawfulBEq κ] in
theorem mem_of_mem_latest (h : a ∈ latest key l) : a ∈ l := by
  obtain ⟨k, -, hk⟩ := List.mem_filterMap.1 h
  rw [List.findRev?_eq_find?_reverse] at hk
  exact List.mem_reverse.1 (List.mem_of_find?_eq_some hk)

end Latest

/-! ### The modules of a registry -/

namespace Registry

variable {r : Registry} {ms : List Module}

/-- A registry that holds the latest ones of some modules holds the latest ones again when one more
module is registered, and it answers with the place of the module's key. -/
theorem register_eq (hr : r.modules = latest Module.key ms) (m : Module) :
    r.register m =
      (⟨latest Module.key (ms ++ [m]), r.instantiations⟩,
        ((ms ++ [m]).map Module.key).eraseDups.idxOf m.key) := by
  have hfind : (r.modules.findIdx? fun known => decide (known.SameKey m)) =
      (ms.map Module.key).eraseDups.findIdx? (· == m.key) := by
    rw [← map_key_latest, ← hr, List.findIdx?_map]
    congr 1
    funext known
    rw [Bool.eq_iff_iff, decide_eq_true_iff, Function.comp_apply, beq_iff_eq, Module.sameKey_iff]
  rw [List.map_append, List.map_singleton, eraseDups_concat]
  by_cases hm : m.key ∈ ms.map Module.key
  · -- the key is known, and its module is replaced
    have hsome : (ms.map Module.key).eraseDups.findIdx? (· == m.key) =
        some ((ms.map Module.key).eraseDups.idxOf m.key) :=
      List.findIdx?_eq_some_iff_findIdx_eq.2
        ⟨List.idxOf_lt_length_of_mem (List.mem_eraseDups.2 hm), rfl⟩
    rw [register, hfind, hsome, if_pos hm, latest_concat_of_mem hm, hr]
  · -- the key is new, and the module comes last
    have hnone : (ms.map Module.key).eraseDups.findIdx? (· == m.key) = none := by
      refine List.findIdx?_eq_none_iff.2 fun key hkey => ?_
      rw [beq_eq_false_iff_ne]
      rintro rfl
      exact hm (List.mem_eraseDups.1 hkey)
    have hlength : r.modules.length = (ms.map Module.key).eraseDups.length := by
      rw [← map_key_latest, ← hr, List.length_map]
    have hnew : m.key ∉ (ms.map Module.key).eraseDups := fun h => hm (List.mem_eraseDups.1 h)
    rw [register, hfind, hnone, if_neg hm, latest_concat_of_notMem hm, hr]
    simp [List.idxOf_append, hnew, hlength, ← hr]

/-- The modules of a registry are the latest ones of those registered. -/
theorem modules_foldl_register (ms : List Module) :
    (ms.foldl (fun r m => (r.register m).1) empty).modules = latest Module.key ms := by
  induction ms using List.reverseRecOn with
  | nil => rfl
  | append_singleton ms m ih => rw [List.foldl_append, List.foldl_cons, register_eq ih]; rfl

/-- No two modules of a registry share a key. -/
theorem nodup_key_foldl_register (ms : List Module) :
    ((ms.foldl (fun r m => (r.register m).1) empty).modules.map Module.key).Nodup := by
  rw [modules_foldl_register, map_key_latest]
  exact nodup_eraseDups _

/-- If no two modules share a key, the key of a module determines its id. -/
theorem eq_of_key_eq (hr : (r.modules.map Module.key).Nodup) {id id' : ModuleId} {m m' : Module}
    (hm : r.get? id = some m) (hm' : r.get? id' = some m') (hkey : m.key = m'.key) : id = id' := by
  have hkeys : ∀ id, (r.modules.map Module.key)[id]? = (r.get? id).map Module.key :=
    fun id => List.getElem?_map
  have hlt : id < (r.modules.map Module.key).length := by
    rw [List.length_map]
    exact (List.getElem?_eq_some_iff.1 hm).1
  refine (List.getElem?_inj hlt hr).1 ?_
  rw [hkeys, hkeys, hm, hm', Option.map_some, Option.map_some, hkey]

end Registry

end DesignAtlas
