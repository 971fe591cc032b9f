import DesignAtlas.Design.Hierarchy
import Mathlib.Data.List.TakeWhile

/-!
# Nested lines

The lines of a hierarchy are nested by their depths alone: a line stands below the nearest line in
front of it that is less deep, and everything deeper that follows a line without a break stands
below it.

* `linesAbove`: the lines that a line stands below.
* `linesBelow`, `childLines`: the lines that stand below a line, at all depths or one step deeper.
* `firstLines`: of the lines that show one module only the first.
-/

namespace DesignAtlas

/-- If a list holds an element with a property there is a first one. -/
theorem exists_first_of_exists {α : Type} {P : α → Prop} {l : List α} (h : ∃ a ∈ l, P a) :
    ∃ before a behind, l = before ++ a :: behind ∧ P a ∧ ∀ b ∈ before, ¬P b := by
  classical
  have hsome : (l.find? fun a => decide (P a)).isSome := by
    simpa [List.find?_isSome] using h
  obtain ⟨a, ha⟩ := Option.isSome_iff_exists.1 hsome
  obtain ⟨hP, before, behind, hl, hbefore⟩ := List.find?_eq_some_iff_append.1 ha
  exact ⟨before, a, behind, hl, by simpa using hP, fun b hb => by simpa using hbefore b hb⟩

namespace HierarchyLine

/-- Some of the lines shows a module. -/
def Shows (lines : List HierarchyLine) (id : ModuleId) : Prop :=
  ∃ l ∈ lines, l.id = id

instance (lines : List HierarchyLine) (id : ModuleId) : Decidable (Shows lines id) :=
  inferInstanceAs (Decidable (∃ l ∈ lines, l.id = id))

/-- The lines that a line of the given depth stands below, the nearest first. The lines in front
of it are given with the nearest first, too. -/
def linesAbove (depth : Nat) : (written : List HierarchyLine) → List HierarchyLine
  | [] => []
  | l :: written =>
    if l.depth < depth then l :: linesAbove l.depth written else linesAbove depth written

/-- The lines that stand below a line of the given depth, when `behind` are the lines behind it. -/
def linesBelow (depth : Nat) (behind : List HierarchyLine) : List HierarchyLine :=
  behind.takeWhile fun l => depth < l.depth

/-- The lines that stand one step below a line of the given depth. -/
def childLines (depth : Nat) (behind : List HierarchyLine) : List HierarchyLine :=
  (linesBelow depth behind).filter fun l => l.depth = depth + 1

/-- What a line shows: an instance and its module, or a root. -/
def entry (l : HierarchyLine) : Option String × ModuleId :=
  (l.label, l.id)

/-- The depth of the first line that shows a module, and zero if no line shows it. -/
def depthOf (lines : List HierarchyLine) (id : ModuleId) : Nat :=
  (lines.find? fun l => l.id = id).elim 0 HierarchyLine.depth

/-- The lines that show a module for the first time, when `written` are the lines in front. -/
def firstLines : (written lines : List HierarchyLine) → List HierarchyLine
  | _, [] => []
  | written, l :: lines =>
    if Shows written l.id then firstLines (l :: written) lines
    else l :: firstLines (l :: written) lines

variable {depth : Nat} {id : ModuleId} {k l : HierarchyLine}
  {lines between before written behind : List HierarchyLine}

/-! ### Modules shown -/

@[simp]
theorem not_shows_nil : ¬Shows [] id := by
  rintro ⟨l, hl, -⟩
  exact List.not_mem_nil hl

@[simp]
theorem shows_cons_iff : Shows (l :: lines) id ↔ l.id = id ∨ Shows lines id := by
  simp [Shows]

@[simp]
theorem shows_append_iff : Shows (before ++ behind) id ↔ Shows before id ∨ Shows behind id := by
  simp [Shows, or_and_right, exists_or]

@[simp]
theorem shows_reverse_iff : Shows lines.reverse id ↔ Shows lines id := by
  simp [Shows]

theorem shows_of_mem (hl : l ∈ lines) : Shows lines l.id :=
  ⟨l, hl, rfl⟩

/-! ### Lines above -/

theorem linesAbove_cons_of_lt (h : l.depth < depth) :
    linesAbove depth (l :: written) = l :: linesAbove l.depth written := by
  rw [linesAbove, if_pos h]

theorem linesAbove_cons_of_le (h : depth ≤ l.depth) :
    linesAbove depth (l :: written) = linesAbove depth written := by
  rw [linesAbove, if_neg (Nat.not_lt.2 h)]

theorem mem_of_mem_linesAbove (h : l ∈ linesAbove depth written) : l ∈ written := by
  induction written generalizing depth with
  | nil => simp [linesAbove] at h
  | cons k written ih =>
    rw [linesAbove] at h
    split at h
    · rcases List.mem_cons.1 h with rfl | h
      · exact List.mem_cons_self
      · exact List.mem_cons_of_mem k (ih h)
    · exact List.mem_cons_of_mem k (ih h)

/-- A line stands above everything deeper that follows it without a break. -/
theorem mem_linesAbove_append (hbetween : ∀ k ∈ between, l.depth < k.depth) (h : l.depth < depth) :
    l ∈ linesAbove depth (between ++ l :: written) := by
  induction between generalizing depth with
  | nil => simp [linesAbove_cons_of_lt h]
  | cons k between ih =>
    obtain ⟨hk, hbetween⟩ := List.forall_mem_cons.1 hbetween
    rw [List.cons_append, linesAbove]
    split
    · exact List.mem_cons_of_mem k (ih hbetween hk)
    · exact ih hbetween h

/-! ### Lines below -/

/-- Nothing stands below a line that a line at its depth or above follows. -/
theorem linesBelow_cons_of_le (h : l.depth ≤ depth) : linesBelow depth (l :: behind) = [] := by
  rw [linesBelow, List.takeWhile_cons_of_neg (by simpa using h)]

theorem linesBelow_cons_of_lt (h : depth < l.depth) :
    linesBelow depth (l :: behind) = l :: linesBelow depth behind := by
  rw [linesBelow, List.takeWhile_cons_of_pos (by simpa using h), linesBelow]

theorem linesBelow_append (hbetween : ∀ k ∈ between, depth < k.depth) :
    linesBelow depth (between ++ behind) = between ++ linesBelow depth behind :=
  List.takeWhile_append_of_pos fun k hk => by simpa using hbetween k hk

theorem mem_of_mem_linesBelow (h : k ∈ linesBelow depth behind) : k ∈ behind :=
  (List.takeWhile_sublist _).subset h

/-- What stands below a deeper line stands below the other line, too. -/
theorem mem_linesBelow_of_lt {deeper : Nat} (hdeeper : depth < deeper)
    (h : k ∈ linesBelow deeper behind) : k ∈ linesBelow depth behind := by
  induction behind with
  | nil => simp [linesBelow] at h
  | cons l behind ih =>
    by_cases hl : deeper < l.depth
    · rw [linesBelow_cons_of_lt hl] at h
      rw [linesBelow_cons_of_lt (Nat.lt_trans hdeeper hl)]
      rcases List.mem_cons.1 h with rfl | h
      · exact List.mem_cons_self
      · exact List.mem_cons_of_mem l (ih h)
    · rw [linesBelow_cons_of_le (Nat.not_lt.1 hl)] at h
      exact absurd h List.not_mem_nil

/-- If a module is shown below a line, its first line there is deeper and so is everything between
the two lines. -/
theorem exists_first_of_shows_linesBelow (h : Shows (linesBelow depth behind) id) :
    ∃ between k rest, behind = between ++ k :: rest ∧ k.id = id ∧ ¬Shows between id ∧
      depth < k.depth ∧ ∀ j ∈ between, depth < j.depth := by
  obtain ⟨between, k, rest, hbelow, hid, hbetween⟩ := exists_first_of_exists h
  obtain ⟨others, hothers⟩ : linesBelow depth behind <+: behind := List.takeWhile_prefix _
  -- all lines below are deeper
  have hdeep : ∀ j ∈ between ++ k :: rest, depth < j.depth := by
    intro j hj
    simpa using List.mem_takeWhile_imp (hbelow ▸ hj : j ∈ linesBelow depth behind)
  refine ⟨between, k, rest ++ others, ?_, hid, ?_, hdeep k (by simp), fun j hj => ?_⟩
  · rw [← hothers, hbelow, List.append_assoc, List.cons_append]
  · rintro ⟨j, hj, hjid⟩
    exact hbetween j hj hjid
  · exact hdeep j (List.mem_append_left _ hj)

theorem childLines_cons_of_le (h : l.depth ≤ depth) : childLines depth (l :: behind) = [] := by
  rw [childLines, linesBelow_cons_of_le h, List.filter_nil]

theorem childLines_cons_of_eq (h : l.depth = depth + 1) :
    childLines depth (l :: behind) = l :: childLines depth behind := by
  rw [childLines, linesBelow_cons_of_lt (by omega), List.filter_cons_of_pos (by simpa using h),
    childLines]

theorem childLines_cons_of_lt (h : depth + 1 < l.depth) :
    childLines depth (l :: behind) = childLines depth behind := by
  have hne : l.depth ≠ depth + 1 := by omega
  rw [childLines, linesBelow_cons_of_lt (by omega), List.filter_cons_of_neg (by simpa using hne),
    childLines]

/-- Lines one step below a depth are the first ones directly below it. -/
theorem childLines_append_of_eq (hbetween : ∀ k ∈ between, k.depth = depth + 1) :
    childLines depth (between ++ behind) = between ++ childLines depth behind := by
  induction between with
  | nil => rfl
  | cons k between ih =>
    obtain ⟨hk, hbetween⟩ := List.forall_mem_cons.1 hbetween
    rw [List.cons_append, childLines_cons_of_eq hk, ih hbetween, List.cons_append]

/-- Deeper lines are no lines directly below a depth. -/
theorem childLines_append_of_lt (hbetween : ∀ k ∈ between, depth + 1 < k.depth) :
    childLines depth (between ++ behind) = childLines depth behind := by
  induction between with
  | nil => rfl
  | cons k between ih =>
    obtain ⟨hk, hbetween⟩ := List.forall_mem_cons.1 hbetween
    rw [List.cons_append, childLines_cons_of_lt hk, ih hbetween]

/-- Nothing stands directly below a depth that all lines have reached. -/
theorem childLines_eq_nil_of_le (h : ∀ k ∈ behind, k.depth ≤ depth) :
    childLines depth behind = [] := by
  cases behind with
  | nil => rfl
  | cons k behind => exact childLines_cons_of_le (h k List.mem_cons_self)

theorem mem_linesBelow_of_mem_childLines (h : k ∈ childLines depth behind) :
    k ∈ linesBelow depth behind :=
  (List.mem_filter.1 h).1

/-! ### First lines -/

theorem not_shows_of_mem_firstLines (h : l ∈ firstLines written lines) : ¬Shows written l.id := by
  induction lines generalizing written with
  | nil => simp [firstLines] at h
  | cons k lines ih =>
    rw [firstLines] at h
    split at h
    · exact fun hl => ih h (shows_cons_iff.2 (.inr hl))
    · next hk =>
      rcases List.mem_cons.1 h with rfl | h
      · exact hk
      · exact fun hl => ih h (shows_cons_iff.2 (.inr hl))

/-- No two first lines show the same module. -/
theorem nodup_map_id_firstLines : ((firstLines written lines).map HierarchyLine.id).Nodup := by
  induction lines generalizing written with
  | nil => simp [firstLines]
  | cons k lines ih =>
    rw [firstLines]
    split
    · exact ih
    · refine List.nodup_cons.2 ⟨fun hk => ?_, ih⟩
      obtain ⟨l, hl, hid⟩ := List.mem_map.1 hk
      exact not_shows_of_mem_firstLines hl (shows_cons_iff.2 (.inl hid.symm))

/-- Every module that the lines show has a first line. -/
theorem shows_firstLines_iff (hid : ¬Shows written id) :
    Shows (firstLines written lines) id ↔ Shows lines id := by
  induction lines generalizing written with
  | nil => simp [firstLines]
  | cons k lines ih =>
    rw [firstLines]
    by_cases hk : k.id = id
    · subst hk
      simp [hid]
    · have hrest : Shows (firstLines (k :: written) lines) id ↔ Shows lines id :=
        ih (by simp [hk, hid])
      split <;> simp [hk, hrest]

/-- The first line of a module is the one that a search finds. -/
theorem find?_of_mem_firstLines (h : l ∈ firstLines written lines) :
    lines.find? (fun k => k.id = l.id) = some l := by
  induction lines generalizing written with
  | nil => simp [firstLines] at h
  | cons k lines ih =>
    by_cases hk : k.id = l.id
    · -- the head is the only line of its module that can be a first one
      rw [firstLines] at h
      split at h
      · exact absurd (shows_cons_iff.2 (.inl hk)) (not_shows_of_mem_firstLines h)
      · rcases List.mem_cons.1 h with rfl | h
        · simp
        · exact absurd (shows_cons_iff.2 (.inl hk)) (not_shows_of_mem_firstLines h)
    · rw [List.find?_cons_of_neg (by simpa using hk)]
      rw [firstLines] at h
      split at h
      · exact ih h
      · rcases List.mem_cons.1 h with rfl | h
        · exact absurd rfl hk
        · exact ih h

theorem depthOf_of_mem_firstLines (h : l ∈ firstLines written lines) :
    depthOf lines l.id = l.depth := by
  rw [depthOf, find?_of_mem_firstLines h, Option.elim_some]

end HierarchyLine

end DesignAtlas
