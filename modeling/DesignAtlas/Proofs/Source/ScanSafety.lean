import DesignAtlas.Proofs.Source.InstanceOffsets
import DesignAtlas.Proofs.Source.Layout
import DesignAtlas.Proofs.Source.ScanPieces
import Mathlib.Data.List.ReduceOption

/-!
# Scans end without a fault

For every text a scan with checks gives what the scan without them does, so none of the checks ever
fails: no part of a text ends before it starts or is cut inside a character, no byte is looked for
where there is none, and no counter gets below zero.

* `instanceNames_eq_ok`: the instances in a body.
* `definitions_eq_ok`: the definitions in a text.
* `scan_without_fault`: a whole text, the instances in it of any module, and every reader at every
  character boundary.
-/

namespace DesignAtlas.Source

open Text Offset

namespace Scan

variable {text rest : List Char}

/-! ### Instances -/

theorem behindOverrides?_ofRest (h : rest <:+ text) :
    behindOverrides? text (ofRest text rest) =
      .ok ((Source.behindOverrides? rest).map (ofRest text)) := by
  have hskip := (skipBlanks_suffix rest).trans h
  rw [behindOverrides?, skipBlanks_ofRest h, ok_bind, holdsAt_ofRest hskip (by decide), ok_bind]
  by_cases hhash : (Text.skipBlanks rest).head? = some '#'
  · obtain ⟨block, hblock⟩ := List.head?_eq_some_iff.1 hhash
    rw [hblock] at hskip ⊢
    have hbehind : block <:+ text := (List.suffix_cons _ _).trans hskip
    have hopen := (skipBlanks_suffix block).trans hbehind
    rw [if_pos (by rfl), ofRest_succ_of_lt (by decide) hskip, skipBlanks_ofRest hbehind, ok_bind,
      holdsAt_ofRest hopen (by decide), ok_bind]
    by_cases hparen : (Text.skipBlanks block).head? = some '('
    · obtain ⟨inner, hinner⟩ := List.head?_eq_some_iff.1 hparen
      have hread : Source.behindOverrides? rest = Source.balanced? ('(' :: inner) := by
        simp only [Source.behindOverrides?, hblock, hinner, Source.balanced?]
      rw [hinner] at hopen ⊢
      rw [if_pos (by rfl), balanced?_ofRest hopen, hread]
    · have hread : Source.behindOverrides? rest = some rest := by
        simp only [Source.behindOverrides?, hblock]
        split
        · simp_all
        · rfl
      rw [if_neg (by simpa using hparen), hread]
      rfl
  · have hread : Source.behindOverrides? rest = some rest :=
      behindOverrides?_of_no_hash fun block hblock => hhash (by rw [hblock, List.head?_cons])
    rw [if_neg (by simpa using hhash), hread]
    rfl

/-- A blank is skipped where one stands, and only there. -/
theorem ofRest_skipBlanks_eq_iff (h : rest <:+ text) :
    ofRest text (Text.skipBlanks rest) = ofRest text rest ↔ rest.head?.any isBlank = false := by
  cases rest with
  | nil => simp
  | cons c rest =>
    by_cases hc : isBlank c = true
    · have htail : rest <:+ text := (List.suffix_cons _ _).trans h
      have hsucc := ofRest_succ isAscii_isBlank hc h
      have hle := ofRest_le (skipBlanks_suffix rest) htail
      have hskip : Text.skipBlanks (c :: rest) = Text.skipBlanks rest :=
        List.dropWhile_cons_of_pos hc
      simp only [hskip, List.head?_cons, Option.any_some, hc, Bool.true_eq_false, iff_false]
      omega
    · rw [skipBlanks_cons (by simpa using hc)]
      simpa using hc

theorem instanceName?_ofRest (h : rest <:+ text) :
    instanceName? text (ofRest text rest) = .ok (Source.instanceName? rest) := by
  rw [instanceName?, behindOverrides?_ofRest h, ok_bind, Source.instanceName?]
  cases hbehind : Source.behindOverrides? rest with
  | none => rfl
  | some behind =>
    obtain ⟨overrides, -, hrest⟩ := exists_isOverridePart_of_behindOverrides? hbehind
    have hsuffix : behind <:+ text := by
      rw [hrest] at h
      exact (List.suffix_append _ _).trans h
    have hskip := (skipBlanks_suffix behind).trans hsuffix
    rw [Option.map_some]
    dsimp only [Option.bind_eq_bind, Option.bind_some]
    rw [skipBlanks_ofRest hsuffix, ok_bind]
    -- the offsets differ if and only if the name stands behind a blank
    by_cases hblank : behind.head?.any isBlank = true
    · have hne : ¬ofRest text (Text.skipBlanks behind) = ofRest text behind := by
        rw [ofRest_skipBlanks_eq_iff hsuffix, hblank]
        decide
      rw [if_neg hne, if_pos hblank, identifier?_ofRest hskip, ok_bind]
      cases hname : Source.identifier? (Text.skipBlanks behind) with
      | none => rfl
      | some found =>
        obtain ⟨name, after⟩ := found
        have htext := eq_append_of_identifier? hname
        rw [htext] at hskip
        have hafter : after <:+ text := (List.suffix_append _ _).trans hskip
        rw [Option.map_some, htext]
        dsimp only [Option.bind_some]
        rw [skipBlanks_ofRest hafter, ok_bind,
          portList?_ofRest ((skipBlanks_suffix after).trans hafter), ok_bind]
        cases Source.portList? none (Text.skipBlanks after) with
        | none => rfl
        | some _ =>
          rw [Option.map_some]
          dsimp only
          rw [part_ofRest hskip]
          rfl
    · rw [if_pos ((ofRest_skipBlanks_eq_iff hsuffix).2 (by simpa using hblank)), if_neg hblank]
      rfl

theorem instanceAt?_offset {name : List Char} {c : Cursor} (hname : name <+: c.rest) :
    instanceAt? c.text name c.offset = .ok (Source.instanceAt? name c) := by
  rw [instanceAt?, canStart_offset, ok_bind, Source.instanceAt?]
  by_cases hboundary : isBoundary c.previous? = true
  · obtain ⟨behind, hrest⟩ := hname
    have htext : c.text = c.before.reverse ++ (name ++ behind) := by rw [Cursor.text, hrest]
    have hsuffix : behind <:+ c.text := by
      rw [htext, ← List.append_assoc]
      exact List.suffix_append _ _
    have hoffset : c.offset + byteLength name = ofRest c.text behind := by
      rw [htext, ← List.append_assoc, ofRest_append, byteLength_append, byteLength_reverse]
      rfl
    rw [if_pos hboundary, if_pos hboundary, hoffset, instanceName?_ofRest hsuffix, ← hrest,
      List.drop_left]
  · rw [if_neg hboundary, if_neg hboundary]
    rfl

theorem mapM_eq_ok {α β γ : Type} {f : β → Scan γ} {g : α → γ} {place : α → β} {list : List α}
    (h : ∀ a ∈ list, f (place a) = .ok (g a)) :
    (list.map place).mapM f = .ok (list.map g) := by
  induction list with
  | nil => rfl
  | cons a list ih =>
    rw [List.map_cons, List.mapM_cons, h a (by simp), ok_bind, ih fun x hx => h x (by simp [hx])]
    rfl

/-- The search for the instances in a body ends without a fault. -/
theorem instanceNames_eq_ok (body moduleName : String) :
    instanceNames body moduleName = .ok (Source.instanceNames body moduleName) := by
  have hhits : occurrences body.toList moduleName.toList 0 =
      .ok ((Text.occurrences moduleName.toList body.toList).map Cursor.offset) := by
    cases hname : moduleName.toList with
    | nil =>
      rw [occurrences, dif_pos (.inl rfl)]
      rfl
    | cons head tail => exact occurrences_offset head tail (Cursor.start body.toList)
  have hnames : ((Text.occurrences moduleName.toList body.toList).map Cursor.offset).mapM
      (instanceAt? body.toList moduleName.toList) =
        .ok ((Text.occurrences moduleName.toList body.toList).map
          (Source.instanceAt? moduleName.toList)) := by
    refine mapM_eq_ok fun c hc => ?_
    obtain ⟨htext, hfront⟩ := mem_occurrences hc
    rw [← htext]
    exact instanceAt?_offset hfront
  rw [instanceNames, hhits, ok_bind, hnames, ok_bind, Source.instanceNames, List.reduceOption,
    List.filterMap_map, List.map_filterMap]
  rfl

/-! ### Definitions -/

theorem behindParameters?_ofRest (h : rest <:+ text) :
    behindParameters? text (ofRest text rest) =
      .ok ((Source.behindParameters? rest).map (ofRest text)) := by
  rw [behindParameters?, holdsAt_ofRest h (by decide), ok_bind]
  by_cases hhash : rest.head? = some '#'
  · obtain ⟨block, rfl⟩ := List.head?_eq_some_iff.1 hhash
    have hbehind : block <:+ text := (List.suffix_cons _ _).trans h
    have hopen := (skipBlanks_suffix block).trans hbehind
    rw [if_pos (by rfl), ofRest_succ_of_lt (by decide) h, skipBlanks_ofRest hbehind, ok_bind,
      holdsAt_ofRest hopen (by decide), ok_bind, Source.behindParameters?]
    by_cases hparen : (Text.skipBlanks block).head? = some '('
    · obtain ⟨inner, hinner⟩ := List.head?_eq_some_iff.1 hparen
      rw [hinner] at hopen ⊢
      rw [if_pos (by rfl), balanced?_ofRest hopen, ok_bind]
      cases hbalanced : Source.balanced? ('(' :: inner) with
      | none => rfl
      | some after =>
        rw [Option.map_some, Option.map_some, Option.map_some]
        dsimp only
        rw [skipBlanks_ofRest ((balanced?_suffix hbalanced).trans hopen)]
        rfl
    · have hread : Source.balanced? (Text.skipBlanks block) = none := by
        unfold Source.balanced?
        split
        · simp_all
        · rfl
      rw [if_neg (by simpa using hparen), hread]
      rfl
  · have hread : Source.behindParameters? rest = some rest := by
      unfold Source.behindParameters?
      split
      · simp_all
      · rfl
    rw [if_neg (by simpa using hhash), hread]
    rfl

theorem behindPorts?_ofRest (h : rest <:+ text) :
    behindPorts? text (ofRest text rest) = .ok ((Source.behindPorts? rest).map (ofRest text)) := by
  rw [behindPorts?, holdsAt_ofRest h (by decide), ok_bind]
  by_cases hsemicolon : rest.head? = some ';'
  · obtain ⟨body, rfl⟩ := List.head?_eq_some_iff.1 hsemicolon
    rw [if_pos (by rfl), ofRest_succ_of_lt (by decide) h]
    rfl
  · have hread : Source.behindPorts? rest = Source.portList? (some endKeyword) rest := by
      unfold Source.behindPorts?
      split
      · simp_all
      · rfl
    rw [if_neg (by simpa using hsemicolon), hread, portList?_ofRest h]

/-- The offsets of a definition that starts with a text. -/
def offsetsOf (text name : List Char) (d : DefinitionText) : DefinitionOffsets where
  nameStart := ofRest text name
  nameEnd := ofRest text name + byteLength d.name
  bodyStart := ofRest text (d.body ++ (endKeyword ++ d.rest))
  bodyEnd := ofRest text (endKeyword ++ d.rest)
  next := ofRest text d.rest

/-- The parts of a definition are parts of the text that it starts. -/
theorem suffix_of_definitionText? {name : List Char} {d : DefinitionText}
    (h : definitionText? name = some d) :
    (∃ behind, name = d.name ++ behind) ∧ d.body ++ (endKeyword ++ d.rest) <:+ name := by
  simp only [definitionText?, Option.bind_eq_bind, Option.bind_eq_some_iff] at h
  obtain ⟨⟨label, behindName⟩, hlabel, ports, hports, header, hheader, ⟨body, after⟩, hcut, hd⟩ := h
  cases hd
  obtain rfl := eq_append_of_identifier? hlabel
  refine ⟨⟨behindName, rfl⟩, ?_⟩
  rw [← eq_append_of_cut?_eq_some hcut]
  exact (behindPorts?_suffix hheader).trans ((behindParameters?_suffix hports).trans
    ((skipBlanks_suffix behindName).trans (List.suffix_append label behindName)))

theorem definitionAt?_ofRest {name : List Char} (h : name <:+ text) :
    definitionAt? text (ofRest text name) =
      .ok ((definitionText? name).map (offsetsOf text name)) := by
  -- every part is read from where the part before it ends, and without it there is no definition
  rw [definitionAt?, identifier?_ofRest h, ok_bind, definitionText?]
  cases hlabel : Source.identifier? name with
  | none => rfl
  | some found =>
    obtain ⟨label, behindName⟩ := found
    obtain rfl := eq_append_of_identifier? hlabel
    have hbehind : behindName <:+ text := (List.suffix_append _ _).trans h
    have hskip := (skipBlanks_suffix behindName).trans hbehind
    rw [Option.map_some]
    dsimp only [Option.bind_eq_bind, Option.bind_some]
    rw [skipBlanks_ofRest hbehind, ok_bind, behindParameters?_ofRest hskip, ok_bind]
    cases hports : Source.behindParameters? (Text.skipBlanks behindName) with
    | none => rfl
    | some ports =>
      have hsuffix := (behindParameters?_suffix hports).trans hskip
      rw [Option.map_some]
      dsimp only [Option.bind_some]
      rw [behindPorts?_ofRest hsuffix, ok_bind]
      cases hheader : Source.behindPorts? ports with
      | none => rfl
      | some header =>
        have hheaderSuffix := (behindPorts?_suffix hheader).trans hsuffix
        rw [Option.map_some]
        dsimp only [Option.bind_some]
        rw [rest_ofRest hheaderSuffix, ok_bind]
        cases hcut : cut? endKeyword header with
        | none =>
          rw [find?_eq_none hcut]
          rfl
        | some parts =>
          obtain ⟨body, after⟩ := parts
          obtain rfl := eq_append_of_cut?_eq_some hcut
          have hafter : endKeyword ++ after <:+ text :=
            (List.suffix_append _ _).trans hheaderSuffix
          rw [find?_eq_some hcut]
          dsimp only [Option.bind_some]
          rw [← ofRest_add hheaderSuffix, ← ofRest_add hafter, ofRest_add h]
          rfl

/-- Without a header no definition is listed. -/
theorem definitionsFrom_of_headerFrom?_eq_none {before : List Char}
    (h : headerFrom? before rest = none) : Source.definitionsFrom ⟨before, rest⟩ = [] := by
  fun_induction headerFrom? before rest with
  | case1 => rw [Source.definitionsFrom, dif_pos rfl]
  | case2 => simp at h
  | case3 before c rest hname ih => rw [definitionsFrom_cons hname, ih h]

/-- The list of definitions goes on from the first header. -/
theorem definitionsFrom_of_headerFrom?_eq_some {before : List Char} {start stop : Nat}
    (h : headerFrom? before rest = some (start, stop)) :
    ∃ c name, Cursor.text c = before.reverse ++ rest ∧ c.rest <:+ rest ∧
      headerName? c.previous? c.rest = some name ∧ start = c.offset ∧
        stop = ofRest c.text name + 1 ∧
          Source.definitionsFrom ⟨before, rest⟩ = Source.definitionsFrom c := by
  fun_induction headerFrom? before rest with
  | case1 => simp at h
  | case2 before c rest name hname =>
    cases h
    refine ⟨⟨before, c :: rest⟩, name, rfl, List.suffix_rfl, hname, rfl, ?_, rfl⟩
    obtain ⟨gap, hgap⟩ := headerName?_suffix hname
    have htext : Cursor.text ⟨before, c :: rest⟩ = before.reverse ++ gap ++ name := by
      simp [Cursor.text, hgap]
    rw [htext, ofRest_append, ← hgap, byteLength_append, byteLength_append, byteLength_reverse]
    omega
  | case3 before c rest hname ih =>
    obtain ⟨d, name, htext, hsuffix, hheader, hstart, hstop, heq⟩ := ih h
    refine ⟨d, name, ?_, hsuffix.trans (List.suffix_cons c rest), hheader, hstart, hstop, ?_⟩
    · rw [htext, List.reverse_cons, List.append_assoc, List.singleton_append]
    · rw [definitionsFrom_cons hname, heq]

/-- Behind a header a definition is listed, or none. -/
theorem definitionsFrom_of_headerName? {c : Cursor} {name : List Char}
    (h : headerName? c.previous? c.rest = some name) :
    Source.definitionsFrom c =
      match definitionText? name with
      | none => Source.definitionsFrom (c.moveTo name)
      | some d => { name := String.ofList d.name, body := String.ofList d.body, line := c.line } ::
          Source.definitionsFrom (c.moveTo d.rest) := by
  have hne : c.rest ≠ [] := fun hnil => by simpa [hnil] using length_lt_of_headerName? h
  rw [Source.definitionsFrom, dif_neg hne]
  split
  · next hname => simp [h] at hname
  · next name' hname =>
    obtain rfl := Option.some_inj.1 (h.symm.trans hname)
    split <;> simp_all

/-- From a place on the search for definitions ends without a fault. -/
theorem definitionsFrom_offset (c : Cursor) :
    definitionsFrom c.text c.offset = .ok (Source.definitionsFrom c) := by
  -- the search goes on at the name behind a header, or behind a definition
  induction hlength : c.rest.length using Nat.strong_induction_on generalizing c with
  | _ length ih =>
    have hheader? : header? c.text c.offset = headerFrom? c.before c.rest := by
      rw [header?, Cursor.at?_offset, Option.bind_some]
    rw [definitionsFrom, dif_pos (isBoundary_offset c), hheader?]
    cases hfrom : headerFrom? c.before c.rest with
    | none =>
      rw [definitionsFrom_of_headerFrom?_eq_none hfrom]
      rfl
    | some found =>
      obtain ⟨start, stop⟩ := found
      obtain ⟨d, name, htext, hsuffix, hheader, rfl, rfl, heq⟩ :=
        definitionsFrom_of_headerFrom?_eq_some hfrom
      have htext : d.text = c.text := htext
      have hname := (headerName?_suffix hheader).trans hsuffix
      have hshorter : name.length < c.rest.length :=
        (length_lt_of_headerName? hheader).trans_le hsuffix.length_le
      have hrest : c.rest <:+ c.text := List.suffix_append _ _
      -- what is left behind the header or the definition, and what is listed from there on
      have hgoes : ∀ rest, rest <:+ name → c.offset < ofRest c.text rest ∧
          definitionsFrom c.text (ofRest c.text rest) =
            .ok (Source.definitionsFrom (d.moveTo rest)) := by
        intro rest hbehind
        have hd := hbehind.trans (headerName?_suffix hheader)
        have hlt := hbehind.length_le.trans_lt hshorter
        refine ⟨?_, ?_⟩
        · rw [offset_eq_ofRest]
          exact ofRest_lt (hbehind.trans hname) hrest hlt
        · have hih := ih rest.length (by omega) (d.moveTo rest) (by rw [Cursor.rest_moveTo hd])
          rwa [offset_moveTo_eq_ofRest hd, Cursor.text_moveTo, htext] at hih
      have hpred : pred (ofRest d.text name + 1) = .ok (ofRest c.text name) := by
        rw [htext]
        rfl
      dsimp only
      rw [hpred, ok_bind, definitionAt?_ofRest (hname.trans hrest), ok_bind,
        show Source.definitionsFrom c = _ from heq, definitionsFrom_of_headerName? hheader]
      cases hdefinition : definitionText? name with
      | none =>
        obtain ⟨hlt, hfound⟩ := hgoes name List.suffix_rfl
        rw [Option.map_none]
        dsimp only
        rw [dif_pos hlt, hfound]
      | some t =>
        obtain ⟨⟨behind, hlabel⟩, hbody⟩ := suffix_of_definitionText? hdefinition
        obtain ⟨hlt, hfound⟩ := hgoes t.rest (definitionText?_suffix hdefinition)
        have hnameText := hname.trans hrest
        have hnamePart : part c.text (ofRest c.text name) (ofRest c.text name + byteLength t.name) =
            .ok t.name := by
          rw [hlabel] at hnameText ⊢
          rw [← ofRest_add hnameText, part_ofRest hnameText]
        have hbodyPart := part_ofRest (hbody.trans hnameText)
        rw [Option.map_some]
        dsimp only [offsetsOf]
        rw [hnamePart, ok_bind, hbodyPart, ok_bind, ← htext, line_offset, ok_bind, htext,
          dif_pos hlt, hfound]
        rfl

/-- The search for the definitions in a text ends without a fault. -/
theorem definitions_eq_ok (text : String) :
    definitions text = .ok (Source.definitions text) :=
  definitionsFrom_offset (Cursor.start text.toList)

/-! ### Every reader at every boundary -/

/-- An offset is not past the end of a text and lies on a character boundary. -/
def LiesIn (text : List Char) (offset : Nat) : Prop :=
  offset ≤ byteLength text ∧ IsBoundary text offset

/-- From an offset on every reader ends without a fault. It reads what stands there, and every
offset that it gives lies in the text and not before the one it was given. -/
structure IsSafeAt (text : List Char) (offset : Nat) : Prop where
  /-- Blanks are skipped. -/
  blanks : skipBlanks text offset = .ok (skipBlanksAt text offset) ∧
    offset ≤ skipBlanksAt text offset ∧ LiesIn text (skipBlanksAt text offset)
  /-- An identifier starts at the offset, if any does. -/
  identifier : identifier? text offset =
      .ok ((identifierAt? text offset).map fun found => (offset, found.2)) ∧
    ∀ found ∈ identifierAt? text offset, offset ≤ found.2 ∧ LiesIn text found.2
  /-- A block that opens at the offset is closed, or the text ends before. -/
  block : holdsAt text offset '(' = .ok true →
    balanced? text offset = .ok (balancedAt? text offset) ∧
      ∀ after ∈ balancedAt? text offset, offset ≤ after ∧ LiesIn text after
  /-- A list opens at the offset, whichever word stops the search for its end. -/
  list : ∀ stop, portList? text stop offset = .ok (portListAt? stop text offset) ∧
    ∀ after ∈ portListAt? stop text offset, offset ≤ after ∧ LiesIn text after
  /-- A needle is looked for, and it ends within the text wherever it stands. -/
  hits : ∀ needle, ∃ hits, occurrences text needle offset = .ok hits ∧
    ∀ hit ∈ hits, offset ≤ hit ∧ LiesIn text hit ∧ LiesIn text (hit + byteLength needle)

theorem liesIn_ofRest (h : rest <:+ text) : LiesIn text (ofRest text rest) :=
  ⟨Nat.sub_le _ _, isBoundary_ofRest h⟩

/-- What is left behind a place starts behind its offset, and in the text. -/
theorem le_and_liesIn_ofRest {rest' : List Char} (h : rest <:+ rest') (h' : rest' <:+ text) :
    ofRest text rest' ≤ ofRest text rest ∧ LiesIn text (ofRest text rest) :=
  ⟨ofRest_le h h', liesIn_ofRest (h.trans h')⟩

theorem le_offset_of_mem_occurrencesFrom {head : Char} {tail : List Char} {c d : Cursor}
    (h : d ∈ occurrencesFrom head tail c) : c.offset ≤ d.offset := by
  fun_induction occurrencesFrom head tail c with
  | case1 => simp at h
  | case2 c hrest hhit ih =>
    rcases List.mem_cons.1 h with rfl | h
    · exact le_rfl
    · exact (c.offset_le_offset_advance _).trans (ih h)
  | case3 c hrest hmiss ih => exact (c.offset_le_offset_advance _).trans (ih h)

/-- The hits of a search from a place on lie in the text, and so do their ends. -/
theorem exists_occurrences (needle : List Char) (c : Cursor) :
    ∃ hits, occurrences c.text needle c.offset = .ok hits ∧ ∀ hit ∈ hits,
      c.offset ≤ hit ∧ LiesIn c.text hit ∧ LiesIn c.text (hit + byteLength needle) := by
  cases needle with
  | nil => exact ⟨[], by rw [occurrences, dif_pos (.inl rfl)]; rfl, by simp⟩
  | cons head tail =>
    refine ⟨_, occurrences_offset head tail c, fun hit hhit => ?_⟩
    obtain ⟨d, hd, rfl⟩ := List.mem_map.1 hhit
    obtain ⟨htext, behind, hbehind⟩ := mem_occurrencesFrom hd
    have hhere : d.rest <:+ c.text := htext ▸ List.suffix_append _ _
    have hnext : head :: tail ++ behind <:+ c.text := hbehind ▸ hhere
    have hend : d.offset + byteLength (head :: tail) = ofRest c.text behind := by
      rw [offset_eq_ofRest, htext, ← hbehind, ofRest_add hnext]
    refine ⟨le_offset_of_mem_occurrencesFrom hd, ?_, ?_⟩
    · rw [offset_eq_ofRest, htext]
      exact liesIn_ofRest hhere
    · rw [hend]
      exact liesIn_ofRest ((List.suffix_append _ _).trans hnext)

/-- At the offset of a place every reader ends without a fault. -/
theorem isSafeAt_offset (c : Cursor) : IsSafeAt c.text c.offset := by
  have hrest : c.rest <:+ c.text := List.suffix_append _ _
  constructor
  case blanks =>
    rw [skipBlanksAt, Cursor.at?_offset, offset_eq_ofRest]
    exact ⟨skipBlanks_ofRest hrest, le_and_liesIn_ofRest (skipBlanks_suffix _) hrest⟩
  case identifier =>
    have hread : identifierAt? c.text c.offset =
        (Source.identifier? c.rest).map fun found => (found.1, ofRest c.text found.2) := by
      rw [identifierAt?, Cursor.at?_offset]
      exact Option.map_eq_bind.symm
    rw [hread, offset_eq_ofRest, identifier?_ofRest hrest, Option.map_map]
    refine ⟨rfl, fun found hfound => ?_⟩
    obtain ⟨⟨name, behind⟩, hname, rfl⟩ := Option.map_eq_some_iff.1 hfound
    refine le_and_liesIn_ofRest ?_ hrest
    rw [eq_append_of_identifier? hname]
    exact List.suffix_append _ _
  case block =>
    intro hholds
    have hread : balancedAt? c.text c.offset =
        (Source.balanced? c.rest).map (ofRest c.text) := by
      rw [balancedAt?, Cursor.at?_offset]
      exact Option.map_eq_bind.symm
    rw [offset_eq_ofRest, holdsAt_ofRest hrest (by decide)] at hholds
    have hopen : c.rest.head? = some '(' := by simpa using Except.ok.inj hholds
    obtain ⟨inner, hinner⟩ := List.head?_eq_some_iff.1 hopen
    rw [hinner] at hrest hread
    rw [hread, offset_eq_ofRest, hinner, balanced?_ofRest hrest]
    refine ⟨rfl, fun after hafter => ?_⟩
    obtain ⟨behind, hbehind, rfl⟩ := Option.map_eq_some_iff.1 hafter
    exact le_and_liesIn_ofRest (balanced?_suffix hbehind) hrest
  case list =>
    intro stop
    have hread : portListAt? stop c.text c.offset =
        (Source.portList? stop c.rest).map (ofRest c.text) := by
      rw [portListAt?, Cursor.at?_offset]
      exact Option.map_eq_bind.symm
    rw [hread, offset_eq_ofRest, portList?_ofRest hrest]
    refine ⟨rfl, fun after hafter => ?_⟩
    obtain ⟨behind, hbehind, rfl⟩ := Option.map_eq_some_iff.1 hafter
    exact le_and_liesIn_ofRest (portList?_suffix hbehind) hrest
  case hits => exact fun needle => exists_occurrences needle c

/-- For every text a scan with checks ends without a fault: the scan for definitions and included
names, the search for the instances of any module, and every reader at every character boundary. -/
theorem scan_without_fault (text : String) :
    parse text =
        .ok { definitions := Source.definitions text, includedNames := includedNames text } ∧
      (∀ moduleName, instanceNames text moduleName = .ok (Source.instanceNames text moduleName)) ∧
        ∀ offset, IsBoundary text.toList offset → IsSafeAt text.toList offset := by
  refine ⟨?_, instanceNames_eq_ok text, fun offset h => ?_⟩
  · rw [parse, definitions_eq_ok, ok_bind]
    rfl
  · obtain ⟨c, hc⟩ := Option.isSome_iff_exists.1 h
    obtain ⟨htext, rfl⟩ := Cursor.at?_eq_some hc
    rw [← htext]
    exact isSafeAt_offset c

/-- Between letters of two bytes a list is read up to its semicolon. -/
theorem portList?_between_letters :
    IsBoundary "λ(μ) ;ν".toList 2 ∧ portList? "λ(μ) ;ν".toList none 2 = .ok (some 8) ∧
      LiesIn "λ(μ) ;ν".toList 8 := by
  have hopen : IsBoundary "λ(μ) ;ν".toList 2 := by decide
  have hfound : portListAt? none "λ(μ) ;ν".toList 2 = some 8 := by decide
  obtain ⟨hread, hlies⟩ := ((scan_without_fault "λ(μ) ;ν").2.2 2 hopen).list none
  exact ⟨hopen, hread.trans (congrArg Except.ok hfound), (hlies 8 hfound).2⟩

end Scan

end DesignAtlas.Source
