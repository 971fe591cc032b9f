import DesignAtlas.Proofs.Source.Pieces
import DesignAtlas.Source.Definition

/-!
# The layout of a definition

A definition in a source text is described by the pieces it is cut into, without reading it. The
reader of definitions finds exactly the texts that are laid out like this.

* `headerName?_eq_some_iff`: where a header opens.
* `definitionText?_eq_some_iff`: what follows the opening of a header.
* `standsAt_iff`: at a place stands a definition exactly if the two readers find one there.
* `definitionsFrom_layout`: a definition that is laid out at a place is listed from there.
-/

namespace DesignAtlas.Source

open Text

/-- The text between the name of a module and the end of its header: blanks, or a parameter block
`#( … )` between blanks. -/
def IsParameterPart (part : List Char) : Prop :=
  IsBlanks part ∨ ∃ front inner block back, IsBlanks front ∧ IsBlanks inner ∧ IsBlock block ∧
    IsBlanks back ∧ part = front ++ '#' :: (inner ++ (block ++ back))

/-- The end of a header: a semicolon, or a port list with its semicolon. The list ends before the
first `endmodule`. -/
def IsHeaderEnd (part : List Char) : Prop :=
  part = [';'] ∨ IsPortList (some endKeyword) part

/-- A definition in a source text, cut into its pieces. -/
structure Layout where
  /-- The text before the keyword `module`. -/
  before : List Char
  /-- The white space between the keyword and the name. -/
  gap : List Char
  /-- The name of the module. Behind it no identifier goes on, so it is a maximal one. -/
  name : List Char
  /-- The text between the name and the end of the header. -/
  parameters : List Char
  /-- The end of the header. -/
  ports : List Char
  /-- The text between the semicolon of the header and `endmodule`. -/
  body : List Char
  /-- The text behind `endmodule`. -/
  behind : List Char
  /-- The keyword starts a word. -/
  before_word : before.getLast?.any isWordChar = false
  gap_ne_nil : gap ≠ []
  gap_white : ∀ c ∈ gap, isWhiteSpace c = true
  name_identifier : IsIdentifier name
  parameters_part : IsParameterPart parameters
  ports_end : IsHeaderEnd ports
  /-- The body ends at the first `endmodule`. -/
  body_first : IsFirstCut endKeyword (body ++ (endKeyword ++ behind)) body behind

namespace Layout

/-- The definition from its name to its `endmodule`. -/
def tail (l : Layout) : List Char :=
  l.name ++ (l.parameters ++ (l.ports ++ (l.body ++ endKeyword)))

/-- The whole text. -/
def text (l : Layout) : List Char :=
  l.before ++ (openKeyword ++ (l.gap ++ (l.tail ++ l.behind)))

/-- The offset of the keyword `module`. -/
def offset (l : Layout) : Nat :=
  byteLength l.before

/-- The offset behind `endmodule`. -/
def next (l : Layout) : Nat :=
  byteLength (l.before ++ (openKeyword ++ (l.gap ++ l.tail)))

/-- What is told about the definition: the name, the body, and the number of line feeds before the
keyword. -/
def definition (l : Layout) : Definition :=
  ⟨String.ofList l.name, String.ofList l.body, l.before.count '\n'⟩

end Layout

/-- At an offset of a text stands a definition, and `next` is the offset behind it. -/
def StandsAt (text : List Char) (offset : Nat) (d : Definition) (next : Nat) : Prop :=
  ∃ l : Layout, l.text = text ∧ l.offset = offset ∧ l.definition = d ∧ l.next = next

/-! ### The opening of a header -/

theorem isWhiteSpace_eq_false_of_isIdentifierStart {c : Char} (h : isIdentifierStart c = true) :
    isWhiteSpace c = false := by
  have hrange : 65 ≤ c.toNat ∧ c.toNat ≤ 122 := by
    have hcases : (c.isUpper || c.isLower || c == '_') = true := h
    simp only [Bool.or_eq_true, beq_iff_eq] at hcases
    -- letters are tested by their codes, in two ranges
    rcases hcases with (hupper | hlower) | rfl
    · have hbounds : 'A'.val ≤ c.val ∧ c.val ≤ 'Z'.val := of_decide_eq_true hupper
      exact ⟨hbounds.1, Nat.le_trans hbounds.2 (by decide)⟩
    · have hbounds : (decide ('a'.val ≤ c.val) && decide (c.val ≤ 'z'.val)) = true := hlower
      simp only [Bool.and_eq_true, decide_eq_true_eq] at hbounds
      exact ⟨Nat.le_trans (by decide) hbounds.1, hbounds.2⟩
    · decide
  by_contra hwhite
  simp only [isWhiteSpace, Bool.not_eq_false, Bool.or_eq_true, Bool.and_eq_true, decide_eq_true_eq,
    beq_iff_eq] at hwhite
  omega

/-- A header opens where the keyword starts a word and white space and a name follow. -/
theorem headerName?_eq_some_iff {previous : Option Char} {text name : List Char} :
    headerName? previous text = some name ↔
      previous.any isWordChar = false ∧ name.head?.any isIdentifierStart = true ∧
        ∃ gap, text = openKeyword ++ (gap ++ name) ∧ gap ≠ [] ∧
          ∀ c ∈ gap, isWhiteSpace c = true := by
  constructor
  · intro h
    simp only [headerName?] at h
    split at h
    · simp at h
    · next hprevious =>
      split at h
      · next hkey =>
        split at h
        · next hname =>
          cases h
          obtain ⟨behind, rfl⟩ := List.isPrefixOf_iff_prefix.1 hkey
          rw [List.drop_left, Bool.and_eq_true] at hname
          refine ⟨by simpa using hprevious, by simpa using hname.2,
            behind.takeWhile isWhiteSpace, ?_, ?_, fun c hc => List.mem_takeWhile_imp hc⟩
          · rw [List.drop_left, List.takeWhile_append_dropWhile]
          · obtain ⟨c, hc, hwhite⟩ := (Option.any_eq_true _ _).1 hname.1
            obtain ⟨rest, rfl⟩ := List.head?_eq_some_iff.1 hc
            simp [hwhite]
        · simp at h
      · simp at h
  · rintro ⟨hprevious, hname, gap, rfl, hgap, hwhite⟩
    -- no letter is white space, so all of the gap is dropped and nothing of the name
    have hdrop : (gap ++ name).dropWhile isWhiteSpace = name := by
      rw [List.dropWhile_append_of_pos hwhite]
      obtain ⟨c, hc, hstart⟩ := (Option.any_eq_true _ _).1 hname
      obtain ⟨rest, rfl⟩ := List.head?_eq_some_iff.1 hc
      simp [isWhiteSpace_eq_false_of_isIdentifierStart hstart]
    have hhead : (gap ++ name).head?.any isWhiteSpace = true := by
      obtain ⟨c, rest, rfl⟩ := List.exists_cons_of_ne_nil hgap
      simpa using hwhite c (by simp)
    unfold headerName?
    rw [if_neg (by simp [hprevious]), if_pos (by simp)]
    simp only [List.drop_left, hdrop, hhead, hname, Bool.and_self, if_true]

/-! ### The rest of a definition -/

theorem close_not_mem_endKeyword : ∀ word ∈ some endKeyword, ')' ∉ word := by
  rintro word ⟨⟩
  decide

/-- The end of a header starts with a semicolon or with a parenthesis. -/
theorem IsHeaderEnd.exists_cons {part : List Char} (h : IsHeaderEnd part) :
    ∃ c rest, part = c :: rest ∧ (c = ';' ∨ c = '(') := by
  rcases h with rfl | ⟨list, blanks, rfl, -⟩
  · exact ⟨';', [], rfl, .inl rfl⟩
  · exact ⟨'(', _, rfl, .inr rfl⟩

theorem behindPorts?_eq_some_iff {text rest : List Char} :
    behindPorts? text = some rest ↔ ∃ part, text = part ++ rest ∧ IsHeaderEnd part := by
  constructor
  · intro h
    unfold behindPorts? at h
    split at h
    · cases h
      exact ⟨[';'], rfl, .inl rfl⟩
    · obtain ⟨part, rfl, hpart⟩ := (portList?_eq_some_iff close_not_mem_endKeyword).1 h
      exact ⟨part, rfl, .inr hpart⟩
  · rintro ⟨part, rfl, rfl | hpart⟩
    · rfl
    · have h : portList? (some endKeyword) (part ++ rest) = some rest :=
        (portList?_eq_some_iff close_not_mem_endKeyword).2 ⟨part, rfl, hpart⟩
      obtain ⟨list, blanks, rfl, -⟩ := hpart
      exact h

/-- Between the name and the end of a header stands an optional parameter block. -/
theorem behindParameters?_behindPorts?_iff {text rest : List Char} :
    (∃ ports, behindParameters? (skipBlanks text) = some ports ∧ behindPorts? ports = some rest) ↔
      ∃ part ports, text = part ++ (ports ++ rest) ∧ IsParameterPart part ∧ IsHeaderEnd ports := by
  simp only [behindPorts?_eq_some_iff]
  constructor
  · rintro ⟨_, hparameters, ports, rfl, hports⟩
    obtain ⟨front, hfront, htext⟩ := exists_isBlanks_append_skipBlanks text
    unfold behindParameters? at hparameters
    split at hparameters
    · next r hhash =>
      obtain ⟨behind, hbehind, hskip⟩ := Option.map_eq_some_iff.1 hparameters
      obtain ⟨block, hr, hblock⟩ := balanced?_eq_some_iff.1 hbehind
      obtain ⟨inner, hinner, hrblanks⟩ := exists_isBlanks_append_skipBlanks r
      obtain ⟨back, hback, hbehindBlanks⟩ := exists_isBlanks_append_skipBlanks behind
      refine ⟨front ++ '#' :: (inner ++ (block ++ back)), ports, ?_,
        .inr ⟨front, inner, block, back, hfront, hinner, hblock, hback, rfl⟩, hports⟩
      rw [htext, hhash, hrblanks, hr, hbehindBlanks, hskip]
      simp
    · refine ⟨front, ports, ?_, .inl hfront, hports⟩
      rwa [Option.some_inj.1 hparameters] at htext
  · rintro ⟨part, ports, rfl, hpart, hports⟩
    obtain ⟨c, tail, rfl, hc⟩ := hports.exists_cons
    have hblank : isBlank c = false := by rcases hc with rfl | rfl <;> decide
    have hskip : ∀ {blanks}, IsBlanks blanks →
        skipBlanks (blanks ++ (c :: tail ++ rest)) = c :: tail ++ rest := fun h => by
      rw [skipBlanks_append h, List.cons_append, skipBlanks_cons hblank]
    refine ⟨c :: tail ++ rest, ?_, c :: tail, rfl, hports⟩
    rcases hpart with hpart | ⟨front, inner, block, back, hfront, hinner, hblock, hback, rfl⟩
    · rw [hskip hpart]
      rcases hc with rfl | rfl <;> rfl
    · obtain ⟨blockTail, rfl⟩ := List.head?_eq_some_iff.1 hblock.1
      have hbalanced : balanced? ('(' :: blockTail ++ (back ++ (c :: tail ++ rest))) =
          some (back ++ (c :: tail ++ rest)) := balanced?_eq_some_iff.2 ⟨_, rfl, hblock⟩
      have hopen : skipBlanks (inner ++ ('(' :: blockTail ++ back) ++ (c :: tail ++ rest)) =
          '(' :: blockTail ++ (back ++ (c :: tail ++ rest)) := by
        rw [List.append_assoc, skipBlanks_append hinner, List.append_assoc, List.cons_append,
          skipBlanks_cons (by decide)]
      rw [List.append_assoc, skipBlanks_append hfront, List.cons_append,
        skipBlanks_cons (by decide), behindParameters?, hopen, hbalanced, Option.map_some,
        hskip hback]

/-- No identifier goes on into what follows the name of a module. -/
theorem head?_isIdentifierChar_eq_false {part ports rest : List Char} (hpart : IsParameterPart part)
    (hports : IsHeaderEnd ports) :
    (part ++ (ports ++ rest)).head?.any isIdentifierChar = false := by
  have hblank : ∀ {blanks tail : List Char}, IsBlanks blanks →
      tail.head?.any isIdentifierChar = false →
        (blanks ++ tail).head?.any isIdentifierChar = false := by
    intro blanks tail hblanks htail
    cases blanks with
    | nil => exact htail
    | cons x blanks => simpa using isIdentifierChar_eq_false_of_isBlank (hblanks x (by simp))
  rcases hpart with hpart | ⟨front, inner, block, back, hfront, -, -, -, rfl⟩
  · refine hblank hpart ?_
    obtain ⟨c, tail, rfl, rfl | rfl⟩ := hports.exists_cons <;> rfl
  · rw [List.append_assoc]
    exact hblank hfront (by simp; decide)

/-- The reader of definitions finds the name, the parameter block, the end of the header and the
body where they stand. -/
theorem definitionText?_eq_some_iff {text : List Char} {d : DefinitionText} :
    definitionText? text = some d ↔
      ∃ part ports, text = d.name ++ (part ++ (ports ++ (d.body ++ (endKeyword ++ d.rest)))) ∧
        IsIdentifier d.name ∧ IsParameterPart part ∧ IsHeaderEnd ports ∧
        IsFirstCut endKeyword (d.body ++ (endKeyword ++ d.rest)) d.body d.rest := by
  simp only [definitionText?, Option.bind_eq_bind, Option.bind_eq_some_iff]
  constructor
  · rintro ⟨⟨name, behindName⟩, hname, ports, hparameters, header, hheader, ⟨body, rest⟩, hcut, h⟩
    cases h
    obtain ⟨rfl, hidentifier, -⟩ := identifier?_eq_some_iff.1 hname
    obtain ⟨part, portPart, rfl, hpart, hports⟩ :=
      behindParameters?_behindPorts?_iff.1 ⟨ports, hparameters, hheader⟩
    have hfirst := cut?_eq_some_iff.1 hcut
    obtain rfl := hfirst.1
    exact ⟨part, portPart, rfl, hidentifier, hpart, hports, hfirst⟩
  · rintro ⟨part, ports, rfl, hidentifier, hpart, hports, hfirst⟩
    let behindName := part ++ (ports ++ (d.body ++ (endKeyword ++ d.rest)))
    have hbehind : ∃ portText, behindParameters? (skipBlanks behindName) = some portText ∧
        behindPorts? portText = some (d.body ++ (endKeyword ++ d.rest)) :=
      behindParameters?_behindPorts?_iff.2 ⟨part, ports, rfl, hpart, hports⟩
    obtain ⟨portText, hparameters, hheader⟩ := hbehind
    exact ⟨⟨d.name, _⟩,
      identifier?_eq_some_iff.2 ⟨rfl, hidentifier, head?_isIdentifierChar_eq_false hpart hports⟩,
      portText, hparameters, _, hheader, ⟨d.body, d.rest⟩, cut?_eq_some_iff.2 hfirst, rfl⟩

/-! ### Definitions at places -/

/-- In front of the keyword of a laid out definition a header opens. -/
theorem Layout.headerName?_eq (l : Layout) {previous : Option Char}
    (hprevious : previous.any isWordChar = false) :
    headerName? previous (openKeyword ++ (l.gap ++ (l.tail ++ l.behind))) =
      some (l.tail ++ l.behind) := by
  have hname : (l.tail ++ l.behind).head?.any isIdentifierStart = true := by
    obtain ⟨x, name, hx, hstart⟩ := l.name_identifier.exists_cons
    simp [Layout.tail, hx, hstart]
  exact headerName?_eq_some_iff.2 ⟨hprevious, hname, l.gap, rfl, l.gap_ne_nil, l.gap_white⟩

/-- From its name on a laid out definition is read as it is laid out. -/
theorem Layout.definitionText?_eq (l : Layout) :
    definitionText? (l.tail ++ l.behind) = some ⟨l.name, l.body, l.behind⟩ :=
  definitionText?_eq_some_iff.2 ⟨l.parameters, l.ports, by simp [Layout.tail], l.name_identifier,
    l.parameters_part, l.ports_end, l.body_first⟩

/-- At a place stands a definition exactly if a header opens there and a definition follows. -/
theorem standsAt_iff {c : Cursor} {d : Definition} {next : Nat} :
    StandsAt c.text c.offset d next ↔
      ∃ name t, headerName? c.previous? c.rest = some name ∧ definitionText? name = some t ∧
        d = ⟨String.ofList t.name, String.ofList t.body, c.line⟩ ∧
        next = (c.moveTo t.rest).offset := by
  constructor
  · rintro ⟨l, htext, hoffset, rfl, rfl⟩
    -- the offset tells which cut of the text the place is
    obtain ⟨hbefore, hrest⟩ := Cursor.eq_of_text_eq htext.symm hoffset
    have hsuffix : l.behind <:+ c.rest := by
      rw [← hrest]
      exact ⟨openKeyword ++ (l.gap ++ l.tail), by simp⟩
    have hprevious : c.previous?.any isWordChar = false := by
      have hword := l.before_word
      rwa [hbefore, List.getLast?_reverse] at hword
    refine ⟨l.tail ++ l.behind, ⟨l.name, l.body, l.behind⟩, ?_, l.definitionText?_eq, ?_, ?_⟩
    · rw [← hrest]
      exact l.headerName?_eq hprevious
    · simp [Layout.definition, Cursor.line, hbefore]
    · refine (Cursor.offset_moveTo hsuffix ?_).symm
      rw [← htext, Layout.text]
      simp
  · rintro ⟨name, t, hheader, htail, rfl, rfl⟩
    obtain ⟨hprevious, -, gap, hrest, hgap, hwhite⟩ := headerName?_eq_some_iff.1 hheader
    obtain ⟨part, ports, hname, hidentifier, hpart, hports, hfirst⟩ :=
      definitionText?_eq_some_iff.1 htail
    -- what the two readers leave says where the scan goes on
    have hsuffix : t.rest <:+ c.rest :=
      (definitionText?_suffix htail).trans (headerName?_suffix hheader)
    let l : Layout :=
      { before := c.before.reverse
        gap := gap
        name := t.name
        parameters := part
        ports := ports
        body := t.body
        behind := t.rest
        before_word := by rwa [List.getLast?_reverse]
        gap_ne_nil := hgap
        gap_white := hwhite
        name_identifier := hidentifier
        parameters_part := hpart
        ports_end := hports
        body_first := hfirst }
    have htext : l.text = c.text := by
      simp [l, Layout.text, Layout.tail, Cursor.text, hrest, hname]
    refine ⟨l, htext, byteLength_reverse _, ?_, ?_⟩
    · simp [l, Layout.definition, Cursor.line]
    · refine (Cursor.offset_moveTo hsuffix ?_).symm
      rw [← htext, Layout.text]
      simp [l]

/-! ### Definitions in a row -/

/-- The list of definitions goes on behind a character at which no header opens. -/
theorem definitionsFrom_cons {before rest : List Char} {c : Char}
    (h : headerName? before.head? (c :: rest) = none) :
    definitionsFrom ⟨before, c :: rest⟩ = definitionsFrom ⟨c :: before, rest⟩ := by
  rw [definitionsFrom, dif_neg (by simp)]
  split
  · rfl
  · next name hname =>
    rw [Cursor.previous?, h] at hname
    cases hname

/-- A stretch of text in which the keyword `module` starts nowhere is passed over. -/
theorem definitionsFrom_append {before stretch rest : List Char}
    (h : ∀ left, left <:+ stretch → left ≠ [] → ¬openKeyword <+: left ++ rest) :
    definitionsFrom ⟨before, stretch ++ rest⟩ =
      definitionsFrom ⟨stretch.reverse ++ before, rest⟩ := by
  induction stretch generalizing before with
  | nil => rfl
  | cons c stretch ih =>
    have hnone : headerName? before.head? (c :: (stretch ++ rest)) = none := by
      refine Option.eq_none_iff_forall_ne_some.2 fun name hname => ?_
      obtain ⟨-, -, gap, hopening, -⟩ := headerName?_eq_some_iff.1 hname
      exact h (c :: stretch) List.suffix_rfl (by simp) ⟨gap ++ name, hopening.symm⟩
    rw [List.cons_append, definitionsFrom_cons hnone, ih]
    · simp
    · exact fun left hleft => h left (hleft.trans (List.suffix_cons c stretch))

/-- A text that does not hold the keyword `module` has no definitions. -/
theorem definitionsFrom_of_free {before text : List Char} (h : ¬openKeyword <:+: text) :
    definitionsFrom ⟨before, text⟩ = [] := by
  have hnone : ∀ left, left <:+ text → left ≠ [] → ¬openKeyword <+: left ++ [] := by
    intro left hleft _ hopening
    rw [List.append_nil] at hopening
    exact h (hopening.isInfix.trans hleft.isInfix)
  have hpass : definitionsFrom ⟨before, text ++ []⟩ =
      definitionsFrom ⟨text.reverse ++ before, []⟩ := definitionsFrom_append hnone
  rw [List.append_nil] at hpass
  rw [hpass, definitionsFrom, dif_pos rfl]

/-- A laid out definition is listed, and the list goes on behind it. -/
theorem definitionsFrom_layout (l : Layout) :
    definitionsFrom ⟨l.before.reverse, openKeyword ++ (l.gap ++ (l.tail ++ l.behind))⟩ =
      l.definition ::
        definitionsFrom ⟨(l.before ++ (openKeyword ++ (l.gap ++ l.tail))).reverse, l.behind⟩ := by
  let c : Cursor := ⟨l.before.reverse, openKeyword ++ (l.gap ++ (l.tail ++ l.behind))⟩
  have hheader : headerName? c.previous? c.rest = some (l.tail ++ l.behind) := by
    refine l.headerName?_eq ?_
    rw [Cursor.previous?, List.head?_reverse]
    exact l.before_word
  have hmove : c.moveTo l.behind =
      ⟨(l.before ++ (openKeyword ++ (l.gap ++ l.tail))).reverse, l.behind⟩ := by
    have hsplit : c.rest = (openKeyword ++ (l.gap ++ l.tail)) ++ l.behind := by simp [c]
    have hlength : c.rest.length - l.behind.length = (openKeyword ++ (l.gap ++ l.tail)).length := by
      rw [hsplit, List.length_append, Nat.add_sub_cancel]
    rw [Cursor.moveTo, hlength, Cursor.advance_of_rest_eq hsplit]
    simp [c]
  have hrest : c.rest ≠ [] := List.append_ne_nil_of_left_ne_nil (by decide) _
  rw [definitionsFrom, dif_neg hrest]
  split
  · next hnone =>
    rw [hheader] at hnone
    cases hnone
  · next name hname =>
    obtain rfl := Option.some_inj.1 (hheader.symm.trans hname)
    split
    · next hnone =>
      rw [l.definitionText?_eq] at hnone
      cases hnone
    · next d hd =>
      obtain rfl := Option.some_inj.1 (l.definitionText?_eq.symm.trans hd)
      rw [hmove]
      simp [Layout.definition, Cursor.line]

end DesignAtlas.Source
