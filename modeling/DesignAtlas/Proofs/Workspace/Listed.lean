import DesignAtlas.Workspace.Listing
import Mathlib.Data.List.Nodup

/-!
# Listed directories

The entries of a listed directory have different names and stand in the order of their names, and
the path of each leads to it through the directory. So no two of them have the same path.

* `Path.fileName?_join`: the path of an entry ends in the entry's name.
* `IsListing`: some entries are those of a directory.
* `IsListing.pairwise_not_same`: the sources have different paths.
* `Storage.IsFaithfulAt`, `Storage.IsFaithful`: what a storage lists are the entries of a directory.
-/

namespace DesignAtlas

/-- A name that an entry of a directory can have: one component, and none that leads elsewhere. -/
def IsEntryName (name : String) : Prop :=
  name ≠ "" ∧ '/' ∉ name.toList ∧ name ≠ "." ∧ name ≠ ".."

instance (name : String) : Decidable (IsEntryName name) :=
  inferInstanceAs (Decidable (_ ∧ _))

namespace Path

/-! ### Paths of entries -/

theorem segments_ne_nil (text : List Char) : segments text ≠ [] := by
  cases text with
  | nil => simp [segments]
  | cons c text =>
    rw [segments]
    split
    · simp
    · split <;> simp

theorem segments_of_notMem {text : List Char} (h : '/' ∉ text) : segments text = [text] := by
  induction text with
  | nil => rfl
  | cons c text ih =>
    have hc : c ≠ '/' := fun hc => h (hc ▸ List.mem_cons_self)
    rw [segments, if_neg hc, ih fun htext => h (List.mem_cons_of_mem c htext)]

theorem slash_notMem_of_mem_segments {text segment : List Char} (h : segment ∈ segments text) :
    '/' ∉ segment := by
  induction text generalizing segment with
  | nil =>
    obtain rfl := List.mem_singleton.1 h
    exact List.not_mem_nil
  | cons c text ih =>
    rw [segments] at h
    split at h
    · rcases List.mem_cons.1 h with rfl | h
      · exact List.not_mem_nil
      · exact ih h
    · next hc =>
      obtain ⟨first, others, htext⟩ := List.exists_cons_of_ne_nil (segments_ne_nil text)
      rw [htext] at h ih
      rcases List.mem_cons.1 h with rfl | h
      · have hfirst := ih List.mem_cons_self
        exact fun hmem => (List.mem_cons.1 hmem).elim (fun heq => hc heq.symm) hfirst
      · exact ih (List.mem_cons_of_mem first h)

/-- What stands behind a slash are further pieces. -/
theorem segments_append_slash (front back : List Char) :
    segments (front ++ '/' :: back) = segments front ++ segments back := by
  induction front with
  | nil => simp [segments]
  | cons c front ih =>
    rw [List.cons_append, segments, segments, ih]
    by_cases hc : c = '/'
    · rw [if_pos hc, if_pos hc, List.cons_append]
    · obtain ⟨first, others, hfront⟩ := List.exists_cons_of_ne_nil (segments_ne_nil front)
      rw [if_neg hc, if_neg hc, hfront]
      rfl

variable {p : Path} {name name' : String}

/-- The text of a joined path is the name alone, or ends in a slash and the name. -/
theorem join_text (hslash : '/' ∉ name.toList) :
    (p.join name).text = name ∨
      ∃ front, (p.join name).text.toList = front ++ '/' :: name.toList := by
  have hrelative : ¬name.toList.head? = some '/' := fun h => hslash (List.mem_of_head? h)
  unfold join
  split
  · exact .inl rfl
  · right
    split
    · next hlast =>
      obtain ⟨front, hfront⟩ := List.getLast?_eq_some_iff.1 hlast
      exact ⟨front, by simp [hfront]⟩
    · exact ⟨p.text.toList, by simp⟩

/-- The path of an entry ends in the entry's name. -/
theorem fileName?_join (h : IsEntryName name) : (p.join name).fileName? = some name := by
  obtain ⟨hempty, hslash, hhere, hup⟩ := h
  have hcomponent : componentOf? name.toList = some (.name name) := by
    have hne : ∀ chars, name ≠ String.ofList chars → name.toList ≠ chars := by
      rintro chars hne rfl
      exact hne String.ofList_toList.symm
    rw [componentOf?, if_neg (not_or.2 ⟨hne [] hempty, hne ['.'] hhere⟩),
      if_neg (hne ['.', '.'] hup), String.ofList_toList]
  -- in both forms of the text the name is the last piece
  have hlast : ∃ pieces, segments (p.join name).text.toList = pieces ++ [name.toList] := by
    rcases join_text (p := p) hslash with htext | ⟨front, htext⟩
    · exact ⟨[], by rw [htext, segments_of_notMem hslash, List.nil_append]⟩
    · exact ⟨segments front, by rw [htext, segments_append_slash, segments_of_notMem hslash]⟩
  obtain ⟨pieces, hpieces⟩ := hlast
  have hcomponents : (p.join name).components.getLast? = some (.name name) := by
    rw [components, hpieces, List.filterMap_append, List.filterMap_cons_some hcomponent,
      List.filterMap_nil, ← List.append_assoc, List.getLast?_concat]
  rw [fileName?, hcomponents]

/-- Different entries of a directory have different paths. -/
theorem eq_of_same_join (h : IsEntryName name) (h' : IsEntryName name')
    (hsame : (p.join name).Same (p.join name')) : name = name' := by
  have hfile : (p.join name).fileName? = (p.join name').fileName? := by
    rw [fileName?, fileName?, show (p.join name).components = _ from hsame]
  rwa [fileName?_join h, fileName?_join h', Option.some_inj] at hfile

end Path

/-! ### Listings -/

/-- Some entries are those of a directory: their names are different and stand in order, and the
path of each leads to it through the directory. -/
structure IsListing (directory : Path) (entries : List Entry) : Prop where
  /-- The names are different and stand in the order of their code points, which is that of their
  bytes. -/
  sorted : entries.Pairwise fun e e' => e.name < e'.name
  /-- The names are names of entries. -/
  named : ∀ e ∈ entries, IsEntryName e.name
  /-- The paths lead through the directory. -/
  below : ∀ e ∈ entries, e.path = directory.join e.name

namespace IsListing

variable {directory : Path} {entries : List Entry}

/-- The sources of a listing are a listing themselves. -/
theorem sources (h : IsListing directory entries) :
    IsListing directory (Listing.sources entries) :=
  { sorted := h.sorted.filter _
    named := fun e he => h.named e (List.mem_filter.1 he).1
    below := fun e he => h.below e (List.mem_filter.1 he).1 }

/-- No two entries of a listing have the same name. -/
theorem eq_of_name_eq (h : IsListing directory entries) {e e' : Entry} (he : e ∈ entries)
    (he' : e' ∈ entries) (hname : e.name = e'.name) : e = e' := by
  have hnodup : (entries.map Entry.name).Nodup := by
    refine List.pairwise_map.2 (h.sorted.imp fun {first second} hlt heq => ?_)
    exact String.lt_irrefl second.name (heq ▸ hlt)
  exact List.inj_on_of_nodup_map hnodup he he' hname

/-- No two entries of a listing have the same path. -/
theorem pairwise_not_same (h : IsListing directory entries) :
    entries.Pairwise fun e e' => ¬e.path.Same e'.path := by
  refine h.sorted.imp_of_mem fun {e e'} he he' hlt hsame => ?_
  rw [h.below e he, h.below e' he'] at hsame
  have hname := Path.eq_of_same_join (h.named e he) (h.named e' he') hsame
  exact String.lt_irrefl _ (hname ▸ hlt)

end IsListing

/-- What a storage answers about a root directory is right: it lists the directory's entries. -/
def Storage.IsFaithfulAt (storage : Storage) (root : Path) : Prop :=
  ∀ entries, storage.list root = .ok entries → IsListing root entries

/-- Whatever is listed are the entries of the directory. -/
def Storage.IsFaithful (storage : Storage) : Prop :=
  ∀ directory entries, storage.list directory = .ok entries → IsListing directory entries

end DesignAtlas
