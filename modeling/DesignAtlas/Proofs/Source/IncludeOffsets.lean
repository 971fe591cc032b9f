import DesignAtlas.Proofs.Text.Places
import DesignAtlas.Source.Include

/-!
# Where include directives stand

A plain scan for include directives tries every offset of a text from left to right. It goes on
behind a directive where one stands and at the next offset where none does, so a directive inside
the name of another one is none.

* `IncludeAt`: a directive stands at an offset.
* `directive?_eq_some_iff`: `directive?` reads the directive at the start of a text.
* `IncludeScan`: what the plain scan lists, each name with its offset.
* `placedIncludes`: the included names with their offsets. `includeScan_iff`: the plain scan lists
  these and nothing else.
* `map_snd_placedIncludes`: without the offsets these are the included names.
-/

namespace DesignAtlas.Source

open Text

/-- A directive with a name stands at an offset of a text, and `next` is the offset behind it. The
name ends at the first double quote, and no line ends before that. -/
def IncludeAt (text : List Char) (offset : Nat) (name : String) (next : Nat) : Prop :=
  ∃ before behind, before ++ (includeOpening ++ (name.toList ++ '"' :: behind)) = text ∧
    '"' ∉ name.toList ∧ '\n' ∉ name.toList ∧ byteLength before = offset ∧
      offset + byteLength (includeOpening ++ (name.toList ++ ['"'])) = next

/-- What the plain scan lists from an offset on. -/
inductive IncludeScan (text : List Char) : (offset : Nat) → List (Nat × String) → Prop
  /-- Behind the text there is nothing to list. -/
  | done {offset : Nat} : byteLength text ≤ offset → IncludeScan text offset []
  /-- A name is listed, and the scan goes on behind the directive. -/
  | found {offset next : Nat} {name : String} {names : List (Nat × String)} :
      IncludeAt text offset name next → IncludeScan text next names →
        IncludeScan text offset ((offset, name) :: names)
  /-- Where no directive stands the scan goes on at the next offset. -/
  | skip {offset : Nat} {names : List (Nat × String)} :
      offset < byteLength text → (∀ name next, ¬IncludeAt text offset name next) →
        IncludeScan text (offset + 1) names → IncludeScan text offset names

/-! ### One directive -/

/-- `upToQuote?` reads up to the first double quote, and fails if a line ends before it. -/
theorem upToQuote?_eq_some_iff {text name behind : List Char} :
    upToQuote? text = some (name, behind) ↔
      text = name ++ '"' :: behind ∧ '"' ∉ name ∧ '\n' ∉ name := by
  induction text generalizing name with
  | nil => simp [upToQuote?]
  | cons c text ih =>
    rw [upToQuote?]
    by_cases hquote : c = '"'
    · subst hquote
      rw [if_pos rfl]
      cases name with
      | nil => simp [eq_comm]
      | cons x name =>
        -- a name cannot begin with the quote that ends it
        refine iff_of_false (by simp) ?_
        rintro ⟨htext, hname, -⟩
        obtain ⟨rfl, -⟩ := List.cons_eq_cons.1 htext
        exact hname List.mem_cons_self
    rw [if_neg hquote]
    by_cases hline : c = '\n'
    · subst hline
      rw [if_pos rfl]
      cases name with
      | nil => simp
      | cons x name =>
        refine iff_of_false (by simp) ?_
        rintro ⟨htext, -, hname⟩
        obtain ⟨rfl, -⟩ := List.cons_eq_cons.1 htext
        exact hname List.mem_cons_self
    rw [if_neg hline, Option.map_eq_some_iff]
    constructor
    · rintro ⟨⟨inner, rest⟩, hread, heq⟩
      cases heq
      obtain ⟨rfl, hinner, hinner'⟩ := ih.1 hread
      exact ⟨rfl, by simp [hinner, Ne.symm hquote], by simp [hinner', Ne.symm hline]⟩
    · rintro ⟨htext, hname, hname'⟩
      cases name with
      | nil => exact absurd (List.cons_eq_cons.1 htext).1 hquote
      | cons x inner =>
        obtain ⟨rfl, hrest⟩ := List.cons_eq_cons.1 htext
        exact ⟨(inner, behind), ih.2 ⟨hrest, fun h => hname (List.mem_cons_of_mem c h),
          fun h => hname' (List.mem_cons_of_mem c h)⟩, rfl⟩

/-- `directive?` reads the directive at the start of a text. -/
theorem directive?_eq_some_iff {text name behind : List Char} :
    directive? text = some (name, behind) ↔
      text = includeOpening ++ (name ++ '"' :: behind) ∧ '"' ∉ name ∧ '\n' ∉ name := by
  rw [directive?]
  by_cases hopening : includeOpening <+: text
  · obtain ⟨rest, rfl⟩ := hopening
    rw [if_pos (by simp), List.drop_left, upToQuote?_eq_some_iff, List.append_cancel_left_eq]
  · rw [if_neg (by simpa using hopening)]
    simp only [reduceCtorEq, false_iff, not_and]
    rintro rfl
    exact absurd (List.prefix_append _ _) hopening

/-- A directive stands at the place behind a stretch of text exactly if it is read there. -/
theorem includeAt_iff {before rest : List Char} {name : String} {next : Nat} :
    IncludeAt (before ++ rest) (byteLength before) name next ↔
      ∃ behind, directive? rest = some (name.toList, behind) ∧
        byteLength before + byteLength (includeOpening ++ (name.toList ++ ['"'])) = next := by
  simp only [directive?_eq_some_iff]
  constructor
  · rintro ⟨before', behind, htext, hquote, hline, hoffset, hnext⟩
    obtain ⟨rfl, rfl⟩ := eq_of_byteLength_eq htext hoffset
    exact ⟨behind, ⟨rfl, hquote, hline⟩, hnext⟩
  · rintro ⟨behind, ⟨rfl, hquote, hline⟩, hnext⟩
    exact ⟨before, behind, rfl, hquote, hline, rfl, hnext⟩

variable {text : List Char} {offset next next' : Nat} {name name' : String}
  {names names' : List (Nat × String)}

/-- One directive at most stands at an offset. -/
theorem IncludeAt.unique (h : IncludeAt text offset name next)
    (h' : IncludeAt text offset name' next') : name = name' ∧ next = next' := by
  have ⟨before, behind, htext, _, _, hoffset, _⟩ := h
  rw [← htext, ← hoffset] at h h'
  obtain ⟨rest, hread, rfl⟩ := includeAt_iff.1 h
  obtain ⟨rest', hread', rfl⟩ := includeAt_iff.1 h'
  rw [hread, Option.some_inj, Prod.mk.injEq, String.toList_inj] at hread'
  obtain ⟨rfl, -⟩ := hread'
  exact ⟨rfl, rfl⟩

theorem byteLength_includeOpening_append_pos (rest : List Char) :
    0 < byteLength (includeOpening ++ rest) := by
  have hopening : 0 < byteLength includeOpening := by decide
  rw [byteLength_append]
  omega

theorem IncludeAt.offset_lt (h : IncludeAt text offset name next) :
    offset < next ∧ next ≤ byteLength text := by
  obtain ⟨before, behind, rfl, -, -, rfl, rfl⟩ := h
  have hpos := byteLength_includeOpening_append_pos (name.toList ++ ['"'])
  simp only [byteLength_append, byteLength_cons, byteLength_nil] at hpos ⊢
  omega

/-! ### The plain scan -/

namespace IncludeScan

/-- The plain scan lists one list. -/
theorem unique (h : IncludeScan text offset names) (h' : IncludeScan text offset names') :
    names = names' := by
  induction h generalizing names' with
  | done hend =>
    cases h' with
    | done => rfl
    | found hat _ => exact absurd hat.offset_lt (by omega)
    | skip hlt _ _ => exact absurd hlt (Nat.not_lt.2 hend)
  | found hat _ ih =>
    cases h' with
    | done hend => exact absurd hat.offset_lt (by omega)
    | found hat' hrest' =>
      obtain ⟨rfl, rfl⟩ := hat.unique hat'
      rw [ih hrest']
    | skip _ hnone _ => exact absurd hat (hnone _ _)
  | skip hlt hnone _ ih =>
    cases h' with
    | done hend => exact absurd hlt (Nat.not_lt.2 hend)
    | found hat' _ => exact absurd hat' (hnone _ _)
    | skip _ _ hrest' => exact ih hrest'

/-- The names are listed in increasing order of offset. -/
theorem pairwise_offset (h : IncludeScan text offset names) :
    (∀ found ∈ names, offset ≤ found.1) ∧ names.Pairwise fun a b => a.1 < b.1 := by
  induction h with
  | done => exact ⟨nofun, .nil⟩
  | @found offset next name names hat _ ih =>
    have hlt := hat.offset_lt.1
    refine ⟨fun found hfound => ?_, List.pairwise_cons.2 ⟨fun found hfound => ?_, ih.2⟩⟩
    · rcases List.mem_cons.1 hfound with rfl | hfound
      · exact Nat.le_refl _
      · exact Nat.le_trans (Nat.le_of_lt hlt) (ih.1 found hfound)
    · exact Nat.lt_of_lt_of_le hlt (ih.1 found hfound)
  | skip _ _ _ ih => exact ⟨fun found hfound => Nat.le_of_succ_le (ih.1 found hfound), ih.2⟩

/-- Offsets where no directive stands can be passed over. -/
theorem skip_to {target : Nat} (hle : offset ≤ target) (htarget : target ≤ byteLength text)
    (hnone : ∀ o, offset ≤ o → o < target → ∀ name next, ¬IncludeAt text o name next)
    (h : IncludeScan text target names) : IncludeScan text offset names := by
  -- the scan is built backwards from the target, one skipped offset at a time
  induction hle using Nat.decreasingInduction with
  | self => exact h
  | of_succ offset hlt ih =>
    refine skip (Nat.lt_of_lt_of_le hlt htarget) (hnone offset le_rfl hlt) (ih ?_)
    exact fun o ho => hnone o (Nat.le_of_succ_le ho)

/-- Where no directive is read the scan goes on behind the character. -/
theorem skip_char {before rest : List Char} {c : Char} (hnone : directive? (c :: rest) = none)
    (h : IncludeScan (before ++ c :: rest) (byteLength (before ++ [c])) names) :
    IncludeScan (before ++ c :: rest) (byteLength before) names := by
  have hsize : byteLength (before ++ [c]) = byteLength before + c.utf8Size := by
    rw [byteLength_append, byteLength_cons, byteLength_nil, Nat.add_zero]
  rw [hsize] at h
  refine skip_to (Nat.le_add_right _ _) ?_ (fun o hle hlt name next hat => ?_) h
  · rw [byteLength_append, byteLength_cons]
    omega
  have ⟨before', behind, htext, _, _, hoffset, _⟩ := hat
  obtain ⟨between, hbefore', hrest⟩ := exists_append_of_byteLength_le htext.symm (hoffset ▸ hle)
  cases between with
  | nil =>
    rw [List.append_nil] at hbefore'
    subst hbefore'
    obtain ⟨behind', hread, -⟩ := includeAt_iff.1 (hoffset ▸ hat)
    rw [hnone] at hread
    cases hread
  | cons x between =>
    -- the directive would start behind the character
    obtain ⟨rfl, -⟩ := List.cons_eq_cons.1 hrest
    rw [← hoffset, hbefore', byteLength_append, byteLength_cons] at hlt
    omega

end IncludeScan

/-- The names of the include directives in a text, each with the offset of its directive. The text
starts at an offset itself. -/
def placedIncludesFrom (offset : Nat) (text : List Char) : List (Nat × String) :=
  match text with
  | [] => []
  | c :: rest =>
    match _h : directive? (c :: rest) with
    | some (name, behind) =>
      (offset, String.ofList name) ::
        placedIncludesFrom (offset + byteLength (includeOpening ++ (name ++ ['"']))) behind
    | none => placedIncludesFrom (offset + c.utf8Size) rest
termination_by text.length
decreasing_by
  · exact length_lt_of_directive? _h
  · simp

/-- The names that a source text includes, each with the offset of its directive. -/
def placedIncludes (text : String) : List (Nat × String) :=
  placedIncludesFrom 0 text.toList

theorem map_snd_placedIncludesFrom (offset : Nat) (text : List Char) :
    (placedIncludesFrom offset text).map Prod.snd = includedNamesFrom text := by
  fun_induction placedIncludesFrom offset text with
  | case1 => rw [includedNamesFrom]; rfl
  | case2 offset c rest name behind hread ih =>
    rw [includedNamesFrom, List.map_cons, ih]
    split
    · next name' behind' hread' =>
      rw [hread, Option.some_inj, Prod.mk.injEq] at hread'
      rw [hread'.1, hread'.2]
    · next hnone =>
      rw [hread] at hnone
      cases hnone
  | case3 offset c rest hnone ih =>
    rw [includedNamesFrom, ih]
    split
    · next hread =>
      rw [hnone] at hread
      cases hread
    · rfl

/-- Without the offsets these are the included names. -/
theorem map_snd_placedIncludes (text : String) :
    (placedIncludes text).map Prod.snd = includedNames text :=
  map_snd_placedIncludesFrom 0 text.toList

/-- Behind any stretch of text the plain scan lists the included names with their offsets. -/
theorem includeScan_placedIncludesFrom {before rest : List Char} {offset : Nat}
    (hoffset : byteLength before = offset) :
    IncludeScan (before ++ rest) offset (placedIncludesFrom offset rest) := by
  fun_induction placedIncludesFrom offset rest generalizing before with
  | case1 =>
    refine .done (Nat.le_of_eq ?_)
    rw [List.append_nil, hoffset]
  | case2 offset c rest name behind hread ih =>
    let next := offset + byteLength (includeOpening ++ (name ++ ['"']))
    have hat : IncludeAt (before ++ c :: rest) offset (String.ofList name) next := by
      rw [← hoffset]
      refine includeAt_iff.2 ⟨behind, ?_, ?_⟩
      · rw [String.toList_ofList, hread]
      · rw [String.toList_ofList, hoffset]
    -- the text goes on behind the directive
    have htext : before ++ c :: rest =
        (before ++ (includeOpening ++ (name ++ ['"']))) ++ behind := by
      rw [(directive?_eq_some_iff.1 hread).1]
      simp
    have hnext : byteLength (before ++ (includeOpening ++ (name ++ ['"']))) = next := by
      rw [byteLength_append, hoffset]
    refine .found hat ?_
    rw [htext]
    exact ih hnext
  | case3 offset c rest hnone ih =>
    have hnext : byteLength (before ++ [c]) = offset + c.utf8Size := by
      rw [byteLength_append, hoffset]
      rfl
    have hrest := ih hnext
    rw [List.append_assoc, List.singleton_append, ← hnext] at hrest
    have hscan := IncludeScan.skip_char hnone hrest
    rwa [hoffset, hnext] at hscan

/-- The plain scan lists the included names with their offsets and nothing else. -/
theorem includeScan_iff {text : String} :
    IncludeScan text.toList 0 names ↔ names = placedIncludes text := by
  have hempty : byteLength [] = 0 := rfl
  have hscan : IncludeScan text.toList 0 (placedIncludes text) :=
    includeScan_placedIncludesFrom hempty
  constructor
  · exact fun h => h.unique hscan
  · rintro rfl
    exact hscan

end DesignAtlas.Source
