import DesignAtlas.Proofs.Source.IncludeOffsets

/-!
# Include directives as matches of a pattern

The pattern of an include directive is its opening, a group of any characters but line feeds, and a
double quote. Of the matches behind the last one the leftmost is found, and of those that start
there the one with the shortest group. This finds what the plain scan lists.

* `includeAt_iff_shortest`: a directive is the shortest match at its offset.
* `Matches`: the matches that are found, one behind the other. `matches_iff`: they are the included
  names with their offsets.
* `IncludeScan.mem_or_inside`: a directive that is not listed starts inside of one that is.
* `includedNamesFrom_append_line`: lines are read one by one.
* `readsIncludes`: what is listed in a text.
-/

namespace DesignAtlas.Source

open Text

/-- The text between two offsets matches the pattern of a directive. -/
def IncludeMatch (text : List Char) (start : Nat) (group : String) (stop : Nat) : Prop :=
  ∃ before behind, before ++ (includeOpening ++ (group.toList ++ '"' :: behind)) = text ∧
    '\n' ∉ group.toList ∧ byteLength before = start ∧
      start + byteLength (includeOpening ++ (group.toList ++ ['"'])) = stop

/-- The match that is found from an offset on. -/
structure IsFirstMatch (text : List Char) (offset start : Nat) (group : String) (stop : Nat) :
    Prop where
  /-- It is a match from the offset on. -/
  isMatch : offset ≤ start ∧ IncludeMatch text start group stop
  /-- No match starts further to the left. -/
  leftmost : ∀ start' group' stop', offset ≤ start' → IncludeMatch text start' group' stop' →
    start ≤ start'
  /-- No match that starts there is shorter. -/
  shortest : ∀ group' stop', IncludeMatch text start group' stop' → stop ≤ stop'

/-- The matches that are found from an offset on, each search going on behind the last match. -/
inductive Matches (text : List Char) : (offset : Nat) → List (Nat × String) → Prop
  /-- No match is left. -/
  | done {offset : Nat} :
      (∀ start group stop, offset ≤ start → ¬IncludeMatch text start group stop) →
        Matches text offset []
  /-- A match is found, and the search goes on at its end. -/
  | next {offset start stop : Nat} {group : String} {names : List (Nat × String)} :
      IsFirstMatch text offset start group stop → Matches text stop names →
        Matches text offset ((start, group) :: names)

/-- What is listed of the include directives in a text, each name with its offset. -/
structure ReadsIncludes (text : String) (found : List (Nat × String)) : Prop where
  /-- These are the included names. -/
  names : includedNames text = found.map Prod.snd
  /-- The plain scan over all offsets lists them and nothing else. -/
  scan_iff : ∀ names, IncludeScan text.toList 0 names ↔ names = found
  /-- They are the matches of the pattern, leftmost first and with the shortest group. -/
  matches_iff : ∀ names, Matches text.toList 0 names ↔ names = found
  /-- No name holds a double quote or goes over the end of a line. -/
  no_quote : ∀ place ∈ found, '"' ∉ place.2.toList ∧ '\n' ∉ place.2.toList
  /-- A directive that is not listed starts inside of one that is. -/
  mem_or_inside : ∀ offset name next, IncludeAt text.toList offset name next →
    (offset, name) ∈ found ∨ ∃ offset' name' next', (offset', name') ∈ found ∧
      IncludeAt text.toList offset' name' next' ∧ offset' < offset ∧ offset < next'
  /-- What stands on the lines up to one does not matter to those behind it. -/
  lines : ∀ front back, text.toList = front ++ '\n' :: back →
    includedNames text = includedNames (String.ofList front) ++ includedNames (String.ofList back)

/-! ### Matches -/

variable {text : List Char} {offset start stop next : Nat} {group name : String}
  {names names' : List (Nat × String)}

theorem IncludeMatch.start_lt (h : IncludeMatch text start group stop) :
    start < stop ∧ stop ≤ byteLength text := by
  obtain ⟨before, behind, rfl, -, rfl, rfl⟩ := h
  have hpos := byteLength_includeOpening_append_pos (group.toList ++ ['"'])
  simp only [byteLength_append, byteLength_cons, byteLength_nil] at hpos ⊢
  omega

theorem IncludeAt.includeMatch (h : IncludeAt text offset name next) :
    IncludeMatch text offset name next := by
  obtain ⟨before, behind, htext, -, hline, hoffset, hnext⟩ := h
  exact ⟨before, behind, htext, hline, hoffset, hnext⟩

/-- Where a match starts a directive stands: it ends at the first double quote of the match. -/
theorem IncludeMatch.exists_includeAt (h : IncludeMatch text start group stop) :
    ∃ name next, IncludeAt text start name next ∧ next ≤ stop := by
  obtain ⟨before, behind, rfl, hline, rfl, rfl⟩ := h
  have hquote : '"' ∈ group.toList ++ '"' :: behind := by simp
  obtain ⟨name, rest, hfirst, hname⟩ := List.eq_append_cons_of_mem hquote
  -- the first quote is that of the group or the one behind it
  have hprefix : name <+: group.toList :=
    prefix_of_prefix_append_cons hname ⟨'"' :: rest, hfirst.symm⟩
  obtain ⟨more, hmore⟩ := hprefix
  refine ⟨String.ofList name, _, ⟨before, rest, ?_, ?_, ?_, rfl, rfl⟩, ?_⟩
  · rw [String.toList_ofList, hfirst]
  · rwa [String.toList_ofList]
  · rw [String.toList_ofList]
    exact fun hmem => hline (hmore ▸ List.mem_append_left more hmem)
  · rw [String.toList_ofList, ← hmore]
    simp only [byteLength_append]
    omega

/-- A directive is the shortest match at its offset. -/
theorem includeAt_iff_shortest :
    IncludeAt text start group stop ↔ IncludeMatch text start group stop ∧
      ∀ group' stop', IncludeMatch text start group' stop' → stop ≤ stop' := by
  constructor
  · intro h
    refine ⟨h.includeMatch, fun group' stop' h' => ?_⟩
    -- the directive inside of the other match is this one
    obtain ⟨name, next, hat, hle⟩ := h'.exists_includeAt
    rwa [(h.unique hat).2]
  · rintro ⟨hmatch, hshortest⟩
    obtain ⟨name, next, hat, hle⟩ := hmatch.exists_includeAt
    obtain rfl := Nat.le_antisymm hle (hshortest name next hat.includeMatch)
    -- two groups with one start and one end are the same
    obtain ⟨before, behind, htext, -, hstart, hnext⟩ := hmatch
    obtain ⟨before', behind', htext', -, -, hstart', hnext'⟩ := id hat
    obtain ⟨-, hrest⟩ := eq_of_byteLength_eq (htext.trans htext'.symm) (hstart.trans hstart'.symm)
    have hsize : byteLength group.toList = byteLength name.toList := by
      simp only [byteLength_append] at hnext hnext'
      omega
    obtain ⟨hgroup, -⟩ := eq_of_byteLength_eq (List.append_cancel_left hrest) hsize
    rwa [String.toList_inj.1 hgroup]

theorem IsFirstMatch.includeAt (h : IsFirstMatch text offset start group stop) :
    IncludeAt text start group stop :=
  includeAt_iff_shortest.2 ⟨h.isMatch.2, h.shortest⟩

/-! ### Searching -/

/-- A search can start at an offset where no directive stands. -/
theorem Matches.of_succ (hnone : ∀ name next, ¬IncludeAt text offset name next)
    (h : Matches text (offset + 1) names) : Matches text offset names := by
  have hlater : ∀ start group stop, offset ≤ start → IncludeMatch text start group stop →
      offset + 1 ≤ start := by
    intro start group stop hle hmatch
    refine Nat.lt_of_le_of_ne hle fun heq => ?_
    obtain ⟨name, next, hat, -⟩ := hmatch.exists_includeAt
    exact hnone name next (heq ▸ hat)
  cases h with
  | done hend =>
    exact .done fun start group stop hle hmatch =>
      hend start group stop (hlater start group stop hle hmatch) hmatch
  | next hfirst hrest =>
    refine .next ⟨⟨Nat.le_of_succ_le hfirst.isMatch.1, hfirst.isMatch.2⟩, ?_, hfirst.shortest⟩ hrest
    exact fun start group stop hle hmatch =>
      hfirst.leftmost start group stop (hlater start group stop hle hmatch) hmatch

/-- The plain scan lists the matches. -/
theorem IncludeScan.matches (h : IncludeScan text offset names) : Matches text offset names := by
  induction h with
  | done hend =>
    refine .done fun start group stop hle hmatch => ?_
    have := hmatch.start_lt
    omega
  | found hat _ ih =>
    obtain ⟨hmatch, hshortest⟩ := includeAt_iff_shortest.1 hat
    exact .next ⟨⟨Nat.le_refl _, hmatch⟩, fun _ _ _ hle _ => hle, hshortest⟩ ih
  | skip _ hnone _ ih => exact ih.of_succ hnone

/-- Every match that is found is listed by the plain scan. -/
theorem Matches.includeScan (h : Matches text offset names) : IncludeScan text offset names := by
  induction h with
  | @done offset hend =>
    by_cases hle : byteLength text ≤ offset
    · exact .done hle
    · refine .skip_to (Nat.le_of_not_le hle) (Nat.le_refl _) (fun o ho _ name next hat => ?_)
        (.done (Nat.le_refl _))
      exact hend o name next ho hat.includeMatch
  | @next offset start stop group names hfirst _ ih =>
    have hat := hfirst.includeAt
    have hbounds := hat.offset_lt
    -- a directive in front of the match would be a match further to the left
    refine .skip_to hfirst.isMatch.1 (by omega) (fun o ho hlt name next hat' => ?_) (.found hat ih)
    have hle := hfirst.leftmost o name next ho hat'.includeMatch
    omega

/-- The matches of the pattern are what the plain scan lists. -/
theorem matches_iff_includeScan : Matches text offset names ↔ IncludeScan text offset names :=
  ⟨Matches.includeScan, IncludeScan.matches⟩

/-! ### What is listed -/

namespace IncludeScan

theorem includeAt_of_mem (h : IncludeScan text offset names) :
    ∀ place ∈ names, ∃ next, IncludeAt text place.1 place.2 next := by
  induction h with
  | done => exact nofun
  | found hat _ ih =>
    intro place hplace
    rcases List.mem_cons.1 hplace with rfl | hplace
    · exact ⟨_, hat⟩
    · exact ih place hplace
  | skip _ _ _ ih => exact ih

/-- A directive that is not listed starts inside of one that is. -/
theorem mem_or_inside (h : IncludeScan text offset names) (hle : offset ≤ start)
    (hat : IncludeAt text start name next) :
    (start, name) ∈ names ∨ ∃ start' name' next', (start', name') ∈ names ∧
      IncludeAt text start' name' next' ∧ start' < start ∧ start < next' := by
  induction h with
  | done hend =>
    have := hat.offset_lt
    omega
  | @found offset next' name' names hat' _ ih =>
    rcases Nat.eq_or_lt_of_le hle with rfl | hlt
    · obtain ⟨rfl, -⟩ := hat.unique hat'
      exact .inl List.mem_cons_self
    by_cases hinside : start < next'
    · exact .inr ⟨offset, name', next', List.mem_cons_self, hat', hlt, hinside⟩
    · rcases ih (Nat.le_of_not_lt hinside) with hmem | ⟨start', name', next', hmem, hhidden⟩
      · exact .inl (List.mem_cons_of_mem _ hmem)
      · exact .inr ⟨start', name', next', List.mem_cons_of_mem _ hmem, hhidden⟩
  | skip _ hnone _ ih =>
    refine ih (Nat.lt_of_le_of_ne hle fun heq => ?_)
    exact hnone name next (heq ▸ hat)

end IncludeScan

/-! ### Lines -/

section Lines

variable {front back behind : List Char} {label : List Char}

theorem newline_not_mem_includeOpening : '\n' ∉ includeOpening := by decide

/-- No directive goes over the end of a line. -/
theorem directive?_append_line (front back : List Char) :
    directive? (front ++ '\n' :: back) =
      (directive? front).map fun parts => (parts.1, parts.2 ++ '\n' :: back) := by
  refine Option.ext fun ⟨label, behind⟩ => ?_
  simp only [Option.map_eq_some_iff, Prod.exists, Prod.mk.injEq, directive?_eq_some_iff]
  constructor
  · rintro ⟨htext, hquote, hline⟩
    have hword : '\n' ∉ includeOpening ++ (label ++ ['"']) := by
      simp [newline_not_mem_includeOpening, hline]
    have hprefix : includeOpening ++ (label ++ ['"']) <+: front ++ '\n' :: back :=
      ⟨behind, by rw [htext]; simp⟩
    obtain ⟨rest, hrest⟩ := prefix_of_prefix_append_cons hword hprefix
    refine ⟨label, rest, ⟨by rw [← hrest]; simp, hquote, hline⟩, rfl, ?_⟩
    rw [← hrest] at htext
    simpa using htext
  · rintro ⟨label, rest, ⟨rfl, hquote, hline⟩, rfl, rfl⟩
    exact ⟨by simp, hquote, hline⟩

theorem includedNamesFrom_of_directive? {c : Char} {rest : List Char}
    (h : directive? (c :: rest) = some (label, behind)) :
    includedNamesFrom (c :: rest) = String.ofList label :: includedNamesFrom behind := by
  rw [includedNamesFrom]
  split
  · next hread =>
    rw [h, Option.some_inj, Prod.mk.injEq] at hread
    rw [hread.1, hread.2]
  · next hnone =>
    rw [h] at hnone
    cases hnone

theorem includedNamesFrom_of_none {c : Char} {rest : List Char}
    (h : directive? (c :: rest) = none) :
    includedNamesFrom (c :: rest) = includedNamesFrom rest := by
  rw [includedNamesFrom]
  split
  · next hread =>
    rw [h] at hread
    cases hread
  · rfl

/-- Lines are read one by one. -/
theorem includedNamesFrom_append_line (front back : List Char) :
    includedNamesFrom (front ++ '\n' :: back) =
      includedNamesFrom front ++ includedNamesFrom back := by
  fun_induction includedNamesFrom front with
  | case1 =>
    -- nothing starts at the end of a line
    exact includedNamesFrom_of_none (directive?_append_line [] back)
  | case2 c rest label behind hread ih =>
    have hread' := directive?_append_line (c :: rest) back
    rw [hread, Option.map_some, List.cons_append] at hread'
    rw [List.cons_append, includedNamesFrom_of_directive? hread', ih, List.cons_append]
  | case3 c rest hnone ih =>
    -- no quote on the first line ends the name, and those behind its end do not count
    have hnone' := directive?_append_line (c :: rest) back
    rw [hnone, Option.map_none, List.cons_append] at hnone'
    rw [List.cons_append, includedNamesFrom_of_none hnone', ih]

end Lines

/-- For every text the included names are what the plain scan lists, and the matches of the pattern:
each name goes up to the first double quote on its line. A directive whose quote is missing hides no
other one. -/
theorem readsIncludes (text : String) : ∃ found, ReadsIncludes text found := by
  have hscan : IncludeScan text.toList 0 (placedIncludes text) := includeScan_iff.2 rfl
  refine ⟨placedIncludes text, ?_⟩
  constructor
  case names => exact (map_snd_placedIncludes text).symm
  case scan_iff => exact fun names => includeScan_iff
  case matches_iff => exact fun names => matches_iff_includeScan.trans includeScan_iff
  case no_quote =>
    intro place hplace
    obtain ⟨next, before, behind, -, hquote, hline, -⟩ := hscan.includeAt_of_mem place hplace
    exact ⟨hquote, hline⟩
  case mem_or_inside => exact fun offset name next => hscan.mem_or_inside (Nat.zero_le offset)
  case lines =>
    intro front back htext
    simp only [includedNames, htext, String.toList_ofList, includedNamesFrom_append_line]

/-- A name whose quote is missing does not go on to the quote on the next line. -/
example : includedNames "`include \"a.v\n`include \"b.v\"\n" = ["b.v"] := by decide +kernel

end DesignAtlas.Source
