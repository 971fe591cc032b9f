import DesignAtlas.Proofs.Source.Pieces
import DesignAtlas.Source.Instance

/-!
# Instances at every offset

Instances are looked for only where `occurrences` finds the name of the module, and hits never
overlap. Nothing is lost by that if the name is an identifier: a hit that starts inside of another
one starts in the middle of an identifier.

* `instanceName?_eq_some_iff`: what follows the name of a module where it is instantiated.
* `filterMap_occurrencesFrom`: looking at the hits finds the same as looking at every place.
* `exists_offsets_of_instanceNames`: the instance names are those found at all offsets of the body,
  in increasing order of offset.
-/

namespace DesignAtlas.Source

open Text

/-- The text between the name of a module and the blanks before the name of the instance: nothing,
or a parameter block `#( … )` with blanks in front. -/
def IsOverridePart (part : List Char) : Prop :=
  part = [] ∨ ∃ front inner block, IsBlanks front ∧ IsBlanks inner ∧ IsBlock block ∧
    part = front ++ '#' :: (inner ++ block)

/-- The text behind the name of a module makes an instance `label` of it: an optional parameter
block, one blank at least, the name of the instance, and a parenthesis behind which a `)` is
followed by blanks and a semicolon. -/
def IsInstanceTail (text label : List Char) : Prop :=
  ∃ overrides gap blanks list,
    text = overrides ++ (gap ++ (label ++ (blanks ++ '(' :: list))) ∧ IsOverridePart overrides ∧
      gap ≠ [] ∧ IsBlanks gap ∧ IsIdentifier label ∧ IsBlanks blanks ∧ HoldsListEnd list

/-- The text behind the name of a module opens a parameter block that is never closed. -/
def OpensUnclosed (text : List Char) : Prop :=
  ∃ front inner block, IsBlanks front ∧ IsBlanks inner ∧
    text = front ++ '#' :: (inner ++ '(' :: block) ∧
      ∀ part rest, '(' :: block = part ++ rest → ¬IsBlock part

/-- At an offset of the body the module `name` is instantiated as `label`: the name stands there
and starts an identifier, and what follows makes an instance. -/
def InstantiatedAt (body name : List Char) (offset : Nat) (label : List Char) : Prop :=
  ∃ before tail, body = before ++ (name ++ tail) ∧ byteLength before = offset ∧
    before.getLast?.any isIdentifierChar = false ∧ IsInstanceTail tail label

/-! ### What follows the name of a module -/

/-- A list in parentheses with its semicolon stands behind blanks. -/
theorem isSome_portList?_skipBlanks_iff {text : List Char} :
    (portList? none (skipBlanks text)).isSome = true ↔
      ∃ blanks list, text = blanks ++ '(' :: list ∧ IsBlanks blanks ∧ HoldsListEnd list := by
  constructor
  · intro h
    obtain ⟨blanks, hblanks, htext⟩ := exists_isBlanks_append_skipBlanks text
    unfold portList? at h
    split at h
    · next list hlist =>
      rw [hlist] at htext
      exact ⟨blanks, list, htext, hblanks, isSome_listEnd?_none_iff.1 h⟩
    · simp at h
  · rintro ⟨blanks, list, rfl, hblanks, hlist⟩
    rw [skipBlanks_append hblanks, skipBlanks_cons (by decide)]
    exact isSome_listEnd?_none_iff.2 hlist

/-- Behind `#` and `(` the parenthesis that closes the block is looked for. -/
theorem behindOverrides?_hash_open {front inner block : List Char} (hfront : IsBlanks front)
    (hinner : IsBlanks inner) :
    behindOverrides? (front ++ '#' :: (inner ++ '(' :: block)) = closing? 0 block := by
  have hhash : skipBlanks (front ++ '#' :: (inner ++ '(' :: block)) =
      '#' :: (inner ++ '(' :: block) := by
    rw [skipBlanks_append hfront, skipBlanks_cons (by decide)]
  have hopen : skipBlanks (inner ++ '(' :: block) = '(' :: block := by
    rw [skipBlanks_append hinner, skipBlanks_cons (by decide)]
  simp only [behindOverrides?, hhash, hopen]

/-- A closed parameter block is passed over. -/
theorem behindOverrides?_of_block {front inner block rest : List Char} (hfront : IsBlanks front)
    (hinner : IsBlanks inner) (hblock : IsBlock block) :
    behindOverrides? (front ++ '#' :: (inner ++ (block ++ rest))) = some rest := by
  have hbalanced := balanced?_eq_some_iff.2 ⟨block, (rfl : block ++ rest = _), hblock⟩
  obtain ⟨blockTail, rfl⟩ := List.head?_eq_some_iff.1 hblock.1
  rw [List.cons_append, behindOverrides?_hash_open hfront hinner]
  exact hbalanced

/-- A parameter block that is never closed fails. -/
theorem behindOverrides?_of_unclosed {text : List Char} (h : OpensUnclosed text) :
    behindOverrides? text = none := by
  obtain ⟨front, inner, block, hfront, hinner, rfl, hopen⟩ := h
  rw [behindOverrides?_hash_open hfront hinner]
  refine Option.eq_none_iff_forall_ne_some.2 fun rest hrest => ?_
  have hbalanced : balanced? ('(' :: block) = some rest := hrest
  obtain ⟨part, htext, hpart⟩ := balanced?_eq_some_iff.1 hbalanced
  exact hopen part rest htext hpart

/-- Without a `#` there is no parameter block. -/
theorem behindOverrides?_of_no_hash {text : List Char}
    (h : ∀ rest, skipBlanks text ≠ '#' :: rest) : behindOverrides? text = some text := by
  unfold behindOverrides?
  split
  · next rest hrest => exact absurd hrest (h rest)
  · rfl

/-- What is passed over is a parameter block or nothing. -/
theorem exists_isOverridePart_of_behindOverrides? {text rest : List Char}
    (h : behindOverrides? text = some rest) :
    ∃ overrides, IsOverridePart overrides ∧ text = overrides ++ rest := by
  obtain ⟨front, hfront, htext⟩ := exists_isBlanks_append_skipBlanks text
  unfold behindOverrides? at h
  split at h
  · next behind hhash =>
    obtain ⟨inner, hinner, hbehind⟩ := exists_isBlanks_append_skipBlanks behind
    split at h
    · next block hopen =>
      have hbalanced : balanced? ('(' :: block) = some rest := h
      obtain ⟨part, hpart, hblock⟩ := balanced?_eq_some_iff.1 hbalanced
      refine ⟨front ++ '#' :: (inner ++ part), ?_, ?_⟩
      · exact .inr ⟨front, inner, part, hfront, hinner, hblock, rfl⟩
      · rw [htext, hhash, hbehind, hopen, hpart]
        simp
    · cases h
      exact ⟨[], .inl rfl, rfl⟩
  · cases h
    exact ⟨[], .inl rfl, rfl⟩

/-- One blank at least, the name of the instance, and a list in parentheses. -/
theorem instance_behind_overrides_iff {rest label : List Char} :
    (rest.head?.any isBlank = true ∧
      ∃ behind, identifier? (skipBlanks rest) = some (label, behind) ∧
        (portList? none (skipBlanks behind)).isSome = true) ↔
        ∃ gap blanks list, rest = gap ++ (label ++ (blanks ++ '(' :: list)) ∧ gap ≠ [] ∧
          IsBlanks gap ∧ IsIdentifier label ∧ IsBlanks blanks ∧ HoldsListEnd list := by
  simp only [isSome_portList?_skipBlanks_iff, identifier?_eq_some_iff]
  constructor
  · rintro ⟨hhead, _, ⟨hrest, hlabel, -⟩, blanks, list, rfl, hblanks, hlist⟩
    obtain ⟨gap, hgap, htext⟩ := exists_isBlanks_append_skipBlanks rest
    rw [hrest] at htext
    refine ⟨gap, blanks, list, htext, ?_, hgap, hlabel, hblanks, hlist⟩
    rintro rfl
    -- the text would start with the label and with a blank
    obtain ⟨c, tail, rfl, hc⟩ := hlabel.exists_cons
    have hblank : isBlank c = true := by simpa [htext] using hhead
    rw [isBlank_eq_false_of_isIdentifierChar (isIdentifierChar_of_isIdentifierStart hc)] at hblank
    exact Bool.noConfusion hblank
  · rintro ⟨gap, blanks, list, rfl, hne, hgap, hlabel, hblanks, hlist⟩
    obtain ⟨b, gapTail, rfl⟩ := List.exists_cons_of_ne_nil hne
    refine ⟨by simpa using hgap b (by simp), _, ⟨?_, hlabel, ?_⟩, blanks, list, rfl, hblanks, hlist⟩
    · obtain ⟨c, tail, rfl, hc⟩ := hlabel.exists_cons
      rw [skipBlanks_append hgap, List.cons_append, skipBlanks_cons]
      exact isBlank_eq_false_of_isIdentifierChar (isIdentifierChar_of_isIdentifierStart hc)
    · cases blanks with
      | nil => rfl
      | cons x blanks => simpa using isIdentifierChar_eq_false_of_isBlank (hblanks x (by simp))

/-- Behind the name of a module and an optional parameter block stand a blank and an instance. -/
theorem instanceName?_eq_some_iff {text label : List Char} :
    instanceName? text = some label ↔ IsInstanceTail text label := by
  have hread : instanceName? text = some label ↔ ∃ rest, behindOverrides? text = some rest ∧
      rest.head?.any isBlank = true ∧
        ∃ behind, identifier? (skipBlanks rest) = some (label, behind) ∧
          (portList? none (skipBlanks behind)).isSome = true := by
    simp only [instanceName?, Option.bind_eq_bind, Option.bind_eq_some_iff]
    refine exists_congr fun rest => and_congr_right fun _ => ?_
    split
    · next hhead => simp [hhead, Option.bind_eq_some_iff, Option.isSome_iff_exists]
    · next hhead => simp [hhead]
  simp only [hread, instance_behind_overrides_iff]
  constructor
  · rintro ⟨rest, hrest, gap, blanks, list, rfl, hinstance⟩
    obtain ⟨overrides, hoverrides, rfl⟩ := exists_isOverridePart_of_behindOverrides? hrest
    exact ⟨overrides, gap, blanks, list, rfl, hoverrides, hinstance⟩
  · rintro ⟨overrides, gap, blanks, list, rfl, hoverrides, hne, hgap, hlabel, hinstance⟩
    refine ⟨gap ++ (label ++ (blanks ++ '(' :: list)), ?_, gap, blanks, list, rfl, hne, hgap,
      hlabel, hinstance⟩
    rcases hoverrides with rfl | ⟨front, inner, block, hfront, hinner, hblock, rfl⟩
    · refine behindOverrides?_of_no_hash fun rest hrest => ?_
      -- the first character behind the blanks starts the label
      obtain ⟨c, tail, rfl, hc⟩ := hlabel.exists_cons
      rw [List.nil_append, skipBlanks_append hgap, List.cons_append, skipBlanks_cons
        (isBlank_eq_false_of_isIdentifierChar (isIdentifierChar_of_isIdentifierStart hc))] at hrest
      rw [(List.cons_eq_cons.1 hrest).1] at hc
      exact absurd hc (by decide)
    · rw [List.append_assoc, List.cons_append, List.append_assoc]
      exact behindOverrides?_of_block hfront hinner hblock

/-! ### Hits and places -/

/-- The name of the instance at any place: nothing where the name of the module does not stand. -/
def instanceHere? (name : List Char) (c : Cursor) : Option (List Char) :=
  if name.isPrefixOf c.rest then instanceAt? name c else none

theorem instanceHere?_of_not_boundary {name : List Char} {c : Cursor}
    (h : c.previous?.any isIdentifierChar = true) : instanceHere? name c = none := by
  simp [instanceHere?, instanceAt?, isBoundary, h]

/-- The instances of a module found at the places from one on. -/
def instancesFrom (name before rest : List Char) : List (List Char) :=
  (Cursor.places before rest).filterMap (instanceHere? name)

/-- A search looks at one place and goes on at the next one. -/
theorem instancesFrom_step (name before rest : List Char) (c : Char) :
    instancesFrom name before (c :: rest) =
      (instanceHere? name ⟨before, c :: rest⟩).toList ++ instancesFrom name (c :: before) rest := by
  rw [instancesFrom, Cursor.places, List.filterMap_cons, instancesFrom]
  cases instanceHere? name ⟨before, c :: rest⟩ with
  | none => rfl
  | some label => rfl

/-- Behind the first character of an identifier nothing is found before its end: a place there has
a character of the identifier before it. -/
theorem instancesFrom_inside {name before rest tail : List Char} {head : Char}
    (hchars : ∀ x ∈ head :: tail, isIdentifierChar x = true) :
    instancesFrom name (head :: before) (tail ++ rest) =
      instancesFrom name (tail.reverse ++ head :: before) rest := by
  refine Cursor.filterMap_places_append fun done left htail _ => ?_
  refine instanceHere?_of_not_boundary ?_
  cases hdone : done.reverse with
  | nil => simpa [Cursor.previous?] using hchars head (by simp)
  | cons x front =>
    have hx : x ∈ done := List.mem_reverse.1 (by simp [hdone])
    simpa [Cursor.previous?] using hchars x (by simp [htail, hx])

/-- Looking at the hits finds the same as looking at every place. -/
theorem filterMap_occurrencesFrom {head : Char} {tail : List Char}
    (hname : ∀ x ∈ head :: tail, isIdentifierChar x = true) (c : Cursor) :
    (occurrencesFrom head tail c).filterMap (instanceAt? (head :: tail)) =
      instancesFrom (head :: tail) c.before c.rest := by
  fun_induction occurrencesFrom head tail c with
  | case1 c hend => simp [hend, instancesFrom, Cursor.places, instanceHere?]
  | case2 c hrest hhit ih =>
    -- the name stands here: the next hit is looked for behind it
    obtain ⟨rest, hr⟩ := List.isPrefixOf_iff_prefix.1 hhit
    have hadvance := Cursor.advance_of_rest_eq hr.symm
    rw [List.length_cons] at hadvance
    have hhere : instanceHere? (head :: tail) ⟨c.before, head :: (tail ++ rest)⟩ =
        instanceAt? (head :: tail) c := by
      rw [instanceHere?, if_pos (by simp), ← List.cons_append, hr]
    rw [hadvance] at ih
    rw [← hr, List.cons_append, instancesFrom_step, hhere, instancesFrom_inside hname,
      List.filterMap_cons, hadvance, ih]
    cases instanceAt? (head :: tail) c <;> simp
  | case3 c hrest hmiss ih =>
    -- the name does not stand here, so nothing is found at this place
    obtain ⟨x, rest, hx⟩ := List.exists_cons_of_ne_nil hrest
    have hhere : instanceHere? (head :: tail) ⟨c.before, x :: rest⟩ = none := by
      rw [instanceHere?, if_neg (by simpa [hx] using hmiss)]
    rw [ih, Cursor.advance_one hx, hx, instancesFrom_step, hhere, Option.toList_none,
      List.nil_append]

/-- The instances of a module whose name is an identifier are found at the places of the body. -/
theorem instanceNames_eq_instancesFrom {body name : String} (hname : IsIdentifier name.toList) :
    instanceNames body name =
      (instancesFrom name.toList [] body.toList).map String.ofList := by
  obtain ⟨head, tail, hcons, -⟩ := hname.exists_cons
  rw [hcons] at hname ⊢
  have h := filterMap_occurrencesFrom hname.2 (Cursor.start body.toList)
  rw [instanceNames, hcons, occurrences, ← List.map_filterMap]
  exact congrArg (List.map String.ofList) h

/-- A place is one where the module is instantiated exactly if its offset is. -/
theorem instanceHere?_eq_some_iff {name label : List Char} {c : Cursor} :
    instanceHere? name c = some label ↔ InstantiatedAt c.text name c.offset label := by
  constructor
  · intro h
    rw [instanceHere?] at h
    split at h
    · next hprefix =>
      obtain ⟨tail, htail⟩ := List.isPrefixOf_iff_prefix.1 hprefix
      rw [instanceAt?] at h
      split at h
      · next hboundary =>
        rw [← htail, List.drop_left] at h
        refine ⟨c.before.reverse, tail, by rw [htail]; rfl, byteLength_reverse _, ?_,
          instanceName?_eq_some_iff.1 h⟩
        rw [List.getLast?_reverse]
        simpa [isBoundary, Cursor.previous?] using hboundary
      · simp at h
    · simp at h
  · rintro ⟨before, tail, htext, hoffset, hboundary, htail⟩
    obtain ⟨rfl, hrest⟩ := Cursor.eq_of_text_eq htext hoffset
    rw [List.getLast?_reverse] at hboundary
    rw [instanceHere?, if_pos (by simp [← hrest]), instanceAt?,
      if_pos (by simpa [isBoundary, Cursor.previous?] using hboundary), ← hrest, List.drop_left]
    exact instanceName?_eq_some_iff.2 htail

/-- An unclosed parameter block makes no instance. -/
theorem not_isInstanceTail_of_opensUnclosed {text label : List Char} (h : OpensUnclosed text) :
    ¬IsInstanceTail text label := by
  intro htail
  have hname := instanceName?_eq_some_iff.2 htail
  simp [instanceName?, behindOverrides?_of_unclosed h] at hname

/-- The instances found at the places of a body, with their offsets. -/
def instancesByOffset (body name : List Char) : List (Nat × String) :=
  (Cursor.places [] body).filterMap fun c =>
    (instanceHere? name c).map fun label => (c.offset, String.ofList label)

theorem pairwise_instancesByOffset (body name : List Char) :
    (instancesByOffset body name).Pairwise fun a b => a.1 < b.1 := by
  refine List.pairwise_filterMap.2 ((Cursor.pairwise_offset_places [] body).imp ?_)
  intro c d hlt a ha b hb
  obtain ⟨_, -, rfl⟩ := Option.map_eq_some_iff.1 ha
  obtain ⟨_, -, rfl⟩ := Option.map_eq_some_iff.1 hb
  exact hlt

theorem mem_instancesByOffset_iff {body name : List Char} {offset : Nat} {label : String} :
    (offset, label) ∈ instancesByOffset body name ↔
      InstantiatedAt body name offset label.toList := by
  simp only [instancesByOffset, List.mem_filterMap, Cursor.mem_places_start_iff,
    Option.map_eq_some_iff, Prod.mk.injEq]
  constructor
  · rintro ⟨c, rfl, found, hfound, rfl, rfl⟩
    simpa using instanceHere?_eq_some_iff.1 hfound
  · intro h
    obtain ⟨before, tail, rfl, rfl, -⟩ := id h
    let c : Cursor := ⟨before.reverse, name ++ tail⟩
    have htext : c.text = before ++ (name ++ tail) := by simp [c, Cursor.text]
    have hoffset : c.offset = byteLength before := by simp [c, Cursor.offset]
    refine ⟨c, htext, label.toList, instanceHere?_eq_some_iff.2 ?_, hoffset, by simp⟩
    rwa [htext, hoffset]

/-- The names of the instances in a body are those found at its offsets, in increasing order, by
trying every offset. Where a parameter block is opened and never closed nothing is found. -/
theorem exists_offsets_of_instanceNames (body name : String) (hname : IsIdentifier name.toList) :
    ∃ found : List (Nat × String),
      instanceNames body name = found.map Prod.snd ∧
      found.Pairwise (fun a b => a.1 < b.1) ∧
      (∀ offset label, (offset, label) ∈ found ↔
        InstantiatedAt body.toList name.toList offset label.toList) ∧
      ∀ before tail, body.toList = before ++ (name.toList ++ tail) → OpensUnclosed tail →
        ∀ label, (byteLength before, label) ∉ found := by
  refine ⟨instancesByOffset body.toList name.toList, ?_,
    pairwise_instancesByOffset body.toList name.toList,
    fun offset label => mem_instancesByOffset_iff, ?_⟩
  · rw [instanceNames_eq_instancesFrom hname, instancesFrom, instancesByOffset, List.map_filterMap,
      List.map_filterMap]
    simp [Function.comp_def]
  · intro before tail hbody hopen label hmem
    obtain ⟨before', tail', hbody', hoffset, -, htail⟩ := mem_instancesByOffset_iff.1 hmem
    -- the same offset is the same cut of the body
    obtain ⟨-, hcut⟩ := eq_of_byteLength_eq (hbody'.symm.trans hbody) hoffset
    rw [List.append_cancel_left_eq] at hcut
    exact not_isInstanceTail_of_opensUnclosed (hcut ▸ hopen) htail

/-- A hit that makes no instance does not hide the one behind it. -/
theorem exists_offsets_of_instanceNames_twice :
    ∃ found : List (Nat × String),
      instanceNames "aa aa u (x);" "aa" = found.map Prod.snd ∧ (3, "u") ∈ found := by
  obtain ⟨found, hfound, -, hmem, -⟩ :=
    exists_offsets_of_instanceNames "aa aa u (x);" "aa" (by decide)
  refine ⟨found, hfound, (hmem 3 "u").2 ⟨"aa ".toList, " u (x);".toList, ?_⟩⟩
  refine ⟨by decide, by decide, by decide, [], [' '], [' '], "x);".toList, ?_⟩
  exact ⟨by decide, .inl rfl, by decide, by decide, by decide, by decide,
    ['x'], [], [], isBlanks_nil, by decide⟩

end DesignAtlas.Source
