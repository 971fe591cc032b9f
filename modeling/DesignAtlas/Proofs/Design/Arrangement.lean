import Mathlib.Data.List.Perm.Basic

/-!
# Sorted and grouped lists

The instances in a module are shown sorted by name, and those of one name stay in the order they
were recorded in. The instantiations of a design are shown grouped by their parents.

* `IsSortedByName`: a list holds the elements of another one in the order of their names, and
  elements of one name in the order of the other list.
* `isSortedByName_mergeSort`: sorting by names does that.
* `flatMap_filter_perm`: taking the groups of different keys one by one takes every element that
  belongs to one of them, once.
-/

namespace DesignAtlas

/-- A list holds what was recorded in the order of the names. -/
structure IsSortedByName {α : Type} (name : α → String) (recorded sorted : List α) : Prop where
  /-- Every element stands there as often as it was recorded. -/
  perm : sorted.Perm recorded
  /-- Names come in increasing order. -/
  le : sorted.Pairwise fun a b => name a ≤ name b
  /-- Elements of one name come in the order recorded. -/
  stable : ∀ text,
    (sorted.filter fun a => name a == text) = recorded.filter fun a => name a == text

variable {α β : Type} {name : α → String} {recorded sorted : List α}

/-- Sorting by names keeps elements of one name in the order recorded. -/
theorem isSortedByName_mergeSort (name : α → String) (recorded : List α) :
    IsSortedByName name recorded (recorded.mergeSort fun a b => name a ≤ name b) := by
  have htrans : ∀ a b c : α, decide (name a ≤ name b) = true → decide (name b ≤ name c) = true →
      decide (name a ≤ name c) = true := by
    intro a b c hab hbc
    simp only [decide_eq_true_eq] at hab hbc ⊢
    exact String.le_trans hab hbc
  have htotal : ∀ a b : α, (decide (name a ≤ name b) || decide (name b ≤ name a)) = true := by
    intro a b
    simpa using String.le_total (name a) (name b)
  have hperm := List.mergeSort_perm recorded fun a b => name a ≤ name b
  refine ⟨hperm, ?_, fun text => ?_⟩
  · exact (List.pairwise_mergeSort htrans htotal recorded).imp fun h => by simpa using h
  · -- the elements of one name are sorted already, so sorting leaves them in their order
    have hsorted : (recorded.filter fun a => name a == text).Pairwise fun a b =>
        decide (name a ≤ name b) = true := by
      refine List.pairwise_of_forall_mem_list fun a ha b hb => ?_
      have haName : name a = text := by simpa using (List.mem_filter.1 ha).2
      have hbName : name b = text := by simpa using (List.mem_filter.1 hb).2
      simp [haName, hbName]
    have hsublist := (List.sublist_mergeSort htrans htotal hsorted List.filter_sublist).filter
      fun a => name a == text
    simp only [List.filter_filter, Bool.and_self] at hsublist
    exact (hsublist.eq_of_length (hperm.filter _).length_eq.symm).symm

/-- Elements of different names come in the order of the names, and those of one name keep the
relation they were recorded in. -/
theorem IsSortedByName.pairwise (h : IsSortedByName name recorded sorted) {R : α → α → Prop}
    (hrecorded : recorded.Pairwise R) :
    sorted.Pairwise fun a b => name a < name b ∨ name a = name b ∧ R a b := by
  rw [List.pairwise_iff_forall_sublist]
  intro a b hab
  have hle : name a ≤ name b := List.pairwise_iff_forall_sublist.1 h.le hab
  by_cases hname : name a = name b
  · -- both stand in the part of one name, which is in the order recorded
    have hpart := hab.filter fun c => name c == name b
    rw [h.stable] at hpart
    have hpair : [a, b].Sublist recorded := by
      simpa [hname] using hpart.trans List.filter_sublist
    exact .inr ⟨hname, List.pairwise_iff_forall_sublist.1 hrecorded hpair⟩
  · exact .inl (String.not_le.1 fun hge => hname (String.le_antisymm hle hge))

/-- Taking the groups of different keys takes every element whose key is one of them. -/
theorem flatMap_filter_perm [DecidableEq β] {keys : List β} (hkeys : keys.Nodup) (key : α → β)
    (l : List α) :
    (keys.flatMap fun k => l.filter fun a => key a == k).Perm (l.filter fun a => key a ∈ keys) := by
  induction keys with
  | nil => simp
  | cons k keys ih =>
    obtain ⟨hk, hkeys⟩ := List.nodup_cons.1 hkeys
    -- the elements of the first key come first, and the others are those of the other keys
    let chosen := l.filter fun a => key a ∈ k :: keys
    have hfirst : (chosen.filter fun a => key a == k) = l.filter fun a => key a == k := by
      rw [List.filter_filter]
      refine List.filter_congr fun a _ => ?_
      by_cases ha : key a = k <;> simp [ha]
    have hothers : (chosen.filter fun a => !(key a == k)) = l.filter fun a => key a ∈ keys := by
      rw [List.filter_filter]
      refine List.filter_congr fun a _ => ?_
      by_cases ha : key a = k <;> simp [ha, hk]
    have hperm := List.filter_append_perm (fun a => key a == k) chosen
    rw [hfirst, hothers] at hperm
    rw [List.flatMap_cons]
    exact ((ih hkeys).append_left _).trans hperm

end DesignAtlas
