import DesignAtlas.Proofs.Source.Layout

/-!
# The plain scan for definitions

The plain scan tries every offset of a text from left to right. It goes on behind a definition
where one stands and at the next offset where none does. `definitionsFrom` takes longer steps: it
stays on places between characters, and from a header without a definition it goes on at the name.

* `no_layout_before_name`: nothing stands between the keyword of a header and the name.
* `plainScan_definitionsFrom`: the longer steps pass over no definition.
* `PlainScan.unique`: the plain scan lists one list.
* `exists_layouts_definitions`: what is listed is laid out in the text, one behind the other.
* `plainScan_iff_eq_definitions`: both list the same definitions of every text.
-/

namespace DesignAtlas.Source

open Text

/-- What the plain scan lists from an offset on. -/
inductive PlainScan (text : List Char) : (offset : Nat) → List Definition → Prop
  /-- Behind the text there is nothing to list. -/
  | done {offset : Nat} : byteLength text ≤ offset → PlainScan text offset []
  /-- A definition is listed, and the scan goes on behind it. -/
  | found {offset next : Nat} {d : Definition} {ds : List Definition} :
      StandsAt text offset d next → PlainScan text next ds → PlainScan text offset (d :: ds)
  /-- Where no definition stands the scan goes on at the next offset. -/
  | skip {offset : Nat} {ds : List Definition} :
      offset < byteLength text → (∀ d next, ¬StandsAt text offset d next) →
        PlainScan text (offset + 1) ds → PlainScan text offset ds

theorem StandsAt.offset_lt {text : List Char} {offset next : Nat} {d : Definition}
    (h : StandsAt text offset d next) : offset < byteLength text := by
  obtain ⟨l, rfl, rfl, -⟩ := h
  have hkey : 0 < byteLength openKeyword := by decide
  simp only [Layout.text, Layout.offset, byteLength_append]
  omega

/-- One definition at most stands at an offset. -/
theorem StandsAt.unique {text : List Char} {offset next next' : Nat} {d d' : Definition}
    (h : StandsAt text offset d next) (h' : StandsAt text offset d' next') :
    d = d' ∧ next = next' := by
  have ⟨l, htext, hoffset, _⟩ := h
  -- the place before the keyword, where both were read
  let c : Cursor := ⟨l.before.reverse, openKeyword ++ (l.gap ++ (l.tail ++ l.behind))⟩
  have hc : c.text = text := by simp [c, Cursor.text, ← htext, Layout.text]
  have hcOffset : c.offset = offset := by simp [c, Cursor.offset, ← hoffset, Layout.offset]
  rw [← hc, ← hcOffset] at h h'
  obtain ⟨name, t, hname, ht, rfl, rfl⟩ := standsAt_iff.1 h
  obtain ⟨name', t', hname', ht', rfl, rfl⟩ := standsAt_iff.1 h'
  obtain rfl := Option.some_inj.1 (hname.symm.trans hname')
  obtain rfl := Option.some_inj.1 (ht.symm.trans ht')
  exact ⟨rfl, rfl⟩

namespace PlainScan

variable {text : List Char} {offset : Nat} {ds ds' : List Definition}

/-- The plain scan lists one list. -/
theorem unique (h : PlainScan text offset ds) (h' : PlainScan text offset ds') : ds = ds' := by
  induction h generalizing ds' with
  | done hend =>
    cases h' with
    | done => rfl
    | found hstands _ => exact absurd hstands.offset_lt (Nat.not_lt.2 hend)
    | skip hlt _ _ => exact absurd hlt (Nat.not_lt.2 hend)
  | found hstands _ ih =>
    cases h' with
    | done hend => exact absurd hstands.offset_lt (Nat.not_lt.2 hend)
    | found hstands' hrest' =>
      obtain ⟨rfl, rfl⟩ := hstands.unique hstands'
      rw [ih hrest']
    | skip _ hnone _ => exact absurd hstands (hnone _ _)
  | skip hlt hnone _ ih =>
    cases h' with
    | done hend => exact absurd hlt (Nat.not_lt.2 hend)
    | found hstands' _ => exact absurd hstands' (hnone _ _)
    | skip _ _ hrest' => exact ih hrest'

/-- Offsets where no definition stands can be passed over. -/
theorem skip_to {target : Nat} (hle : offset ≤ target) (htarget : target ≤ byteLength text)
    (hhere : ∀ d next, ¬StandsAt text offset d next)
    (hbetween : ∀ l : Layout, l.text = text → offset < l.offset → target ≤ l.offset)
    (h : PlainScan text target ds) : PlainScan text offset ds := by
  have hnone : ∀ o, offset ≤ o → o < target → ∀ d next, ¬StandsAt text o d next := by
    intro o ho hlt d next hstands
    rcases Nat.eq_or_lt_of_le ho with rfl | hgt
    · exact hhere d next hstands
    · obtain ⟨l, htext, rfl, -⟩ := hstands
      exact Nat.not_le.2 hlt (hbetween l htext hgt)
  clear hhere hbetween
  -- the scan is built backwards from the target, one skipped offset at a time
  induction hle using Nat.decreasingInduction with
  | self => exact h
  | of_succ offset hlt ih =>
    refine skip (Nat.lt_of_lt_of_le hlt htarget) (hnone offset le_rfl hlt) (ih ?_)
    exact fun o ho => hnone o (Nat.le_of_succ_le ho)

/-- What the plain scan lists is laid out in the text, one definition behind the other. -/
theorem exists_layouts (h : PlainScan text offset ds) :
    ∃ layouts : List Layout, layouts.map Layout.definition = ds ∧
      (∀ l ∈ layouts, l.text = text ∧ offset ≤ l.offset) ∧
      layouts.Pairwise fun k l => k.next ≤ l.offset := by
  induction h with
  | done hend => exact ⟨[], rfl, by simp, .nil⟩
  | found hstands hrest ih =>
    obtain ⟨l, rfl, rfl, rfl, rfl⟩ := hstands
    obtain ⟨layouts, rfl, hlayouts, hpairwise⟩ := ih
    have hle : l.offset ≤ l.next := by
      simp only [Layout.offset, Layout.next, byteLength_append]
      omega
    refine ⟨l :: layouts, rfl, fun k hk => ?_, ?_⟩
    · rcases List.mem_cons.1 hk with rfl | hk
      · exact ⟨rfl, le_rfl⟩
      · exact ⟨(hlayouts k hk).1, hle.trans (hlayouts k hk).2⟩
    · exact List.pairwise_cons.2 ⟨fun k hk => (hlayouts k hk).2, hpairwise⟩
  | skip hlt hnone hrest ih =>
    obtain ⟨layouts, rfl, hlayouts, hpairwise⟩ := ih
    refine ⟨layouts, rfl, fun l hl => ?_, hpairwise⟩
    exact ⟨(hlayouts l hl).1, (Nat.le_succ _).trans (hlayouts l hl).2⟩

end PlainScan

/-! ### What the longer steps pass over -/

/-- No definition stands at an offset inside of a character. -/
theorem advance_offset_le_of_layout {c : Cursor} {x : Char} {rest : List Char}
    (hrest : c.rest = x :: rest) {l : Layout} (htext : l.text = c.text)
    (hlt : c.offset < l.offset) : (c.advance 1).offset ≤ l.offset := by
  have hsplit : c.before.reverse ++ c.rest =
      l.before ++ (openKeyword ++ (l.gap ++ (l.tail ++ l.behind))) := htext.symm
  have hle : byteLength c.before.reverse ≤ byteLength l.before := by
    rw [byteLength_reverse]
    exact Nat.le_of_lt hlt
  obtain ⟨between, hbefore, hbehind⟩ := exists_append_of_byteLength_le hsplit hle
  cases between with
  | nil =>
    rw [Layout.offset, hbefore, List.append_nil, byteLength_reverse] at hlt
    exact absurd hlt (Nat.lt_irrefl _)
  | cons y between =>
    obtain ⟨rfl, -⟩ := List.cons_eq_cons.1 (hrest.symm.trans hbehind)
    rw [Cursor.advance_one hrest, Layout.offset, hbefore]
    simp only [Cursor.offset, byteLength_append, byteLength_reverse, byteLength_cons]
    omega

/-- The keyword and the white space behind it hold the first letter of the keyword only once. -/
theorem ne_of_mem_tail_opening {gap : List Char} (hgap : ∀ c ∈ gap, isWhiteSpace c = true)
    {c : Char} (hc : c ∈ (openKeyword ++ gap).tail) : c ≠ 'm' := by
  have hmem : c ∈ "odule".toList ∨ c ∈ gap := List.mem_append.1 hc
  rintro rfl
  rcases hmem with hmem | hmem
  · revert hmem
    decide
  · exact absurd (hgap 'm' hmem) (by decide)

/-- No definition stands between the keyword of a header and the name. -/
theorem no_layout_before_name {c : Cursor} {name : List Char}
    (hheader : headerName? c.previous? c.rest = some name) {l : Layout} (htext : l.text = c.text)
    (hlt : c.offset < l.offset) : (c.moveTo name).offset ≤ l.offset := by
  obtain ⟨-, -, gap, hrest, -, hwhite⟩ := headerName?_eq_some_iff.1 hheader
  have hctext : c.text = c.before.reverse ++ (openKeyword ++ gap) ++ name := by
    simp [Cursor.text, hrest]
  rw [Cursor.offset_moveTo (headerName?_suffix hheader) hctext]
  by_contra hbefore
  -- the keyword of `l` would start inside of `openKeyword ++ gap`, behind its first letter
  obtain ⟨front, hfront, hback⟩ := exists_append_of_byteLength_le
    (show c.before.reverse ++ (openKeyword ++ gap ++ name) = l.before ++ _ by
      rw [← List.append_assoc, ← hctext]; exact htext.symm)
    (by rw [byteLength_reverse]; exact Nat.le_of_lt hlt)
  obtain ⟨back, hopening, hname⟩ := exists_append_of_byteLength_le
    (htext.trans hctext) (Nat.le_of_not_le hbefore)
  rw [hfront, List.append_assoc, List.append_cancel_left_eq] at hopening
  have hfrontNe : front ≠ [] := by
    rintro rfl
    rw [Layout.offset, hfront, List.append_nil, byteLength_reverse] at hlt
    exact absurd hlt (Nat.lt_irrefl _)
  have hbackNe : back ≠ [] := by
    rintro rfl
    refine hbefore (Nat.le_of_eq ?_)
    rw [Layout.offset, hfront, hopening, List.append_nil]
  obtain ⟨x, front, rfl⟩ := List.exists_cons_of_ne_nil hfrontNe
  obtain ⟨y, back, rfl⟩ := List.exists_cons_of_ne_nil hbackNe
  have hy : y = 'm' := (List.cons_eq_cons.1 hname).1.symm
  refine ne_of_mem_tail_opening hwhite ?_ hy
  rw [hopening]
  simp

/-- The longer steps pass over no definition. -/
theorem plainScan_definitionsFrom (c : Cursor) :
    PlainScan c.text c.offset (definitionsFrom c) := by
  fun_induction definitionsFrom c with
  | case1 c hend =>
    refine .done (Nat.le_of_eq ?_)
    simp [Cursor.text, Cursor.offset, hend]
  | case2 c hrest hheader ih =>
    -- no header opens here
    obtain ⟨x, rest, hx⟩ := List.exists_cons_of_ne_nil hrest
    rw [Cursor.text_advance] at ih
    refine .skip_to (c.offset_le_offset_advance 1) ?_ ?_ ?_ ih
    · exact Cursor.text_advance c 1 ▸ (c.advance 1).offset_le
    · intro d next hstands
      obtain ⟨name, t, hname, -⟩ := standsAt_iff.1 hstands
      simp [hheader] at hname
    · exact fun l htext hlt => advance_offset_le_of_layout hx htext hlt
  | case3 c hrest name hheader htail ih =>
    -- a header opens here, and no definition follows it
    rw [Cursor.text_moveTo] at ih
    refine .skip_to (c.offset_le_offset_advance _) ?_ ?_ ?_ ih
    · exact Cursor.text_moveTo c name ▸ (c.moveTo name).offset_le
    · intro d next hstands
      obtain ⟨name', t, hname, ht, -⟩ := standsAt_iff.1 hstands
      obtain rfl := Option.some_inj.1 (hheader.symm.trans hname)
      simp [htail] at ht
    · exact fun l htext hlt => no_layout_before_name hheader htext hlt
  | case4 c hrest name hheader t htail ih =>
    -- a definition stands here
    rw [Cursor.text_moveTo] at ih
    exact .found (standsAt_iff.2 ⟨name, t, hheader, htail, rfl, rfl⟩) ih

/-- The definitions of a text are laid out in it, one behind the other. -/
theorem exists_layouts_definitions (text : String) :
    ∃ layouts : List Layout, layouts.map Layout.definition = definitions text ∧
      (∀ l ∈ layouts, l.text = text.toList) ∧ layouts.Pairwise fun k l => k.next ≤ l.offset := by
  obtain ⟨layouts, hmap, hlayouts, hpairwise⟩ :=
    (plainScan_definitionsFrom (Cursor.start text.toList)).exists_layouts
  exact ⟨layouts, hmap, fun l hl => (hlayouts l hl).1, hpairwise⟩

/-- The names of the definitions are identifiers. -/
theorem isIdentifier_of_mem_definitions {text : String} {d : Definition}
    (hd : d ∈ definitions text) : IsIdentifier d.name.toList := by
  obtain ⟨layouts, hmap, -, -⟩ := exists_layouts_definitions text
  rw [← hmap] at hd
  obtain ⟨l, -, rfl⟩ := List.mem_map.1 hd
  rw [Layout.definition, String.toList_ofList]
  exact l.name_identifier

/-- For every text the plain scan lists exactly the definitions. -/
theorem plainScan_iff_eq_definitions (text : String) (ds : List Definition) :
    PlainScan text.toList 0 ds ↔ ds = definitions text := by
  have h : PlainScan text.toList 0 (definitions text) :=
    plainScan_definitionsFrom (Cursor.start text.toList)
  constructor
  · exact fun h' => h'.unique h
  · rintro rfl
    exact h

end DesignAtlas.Source
