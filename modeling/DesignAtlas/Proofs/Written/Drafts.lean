import DesignAtlas.Proofs.Source.Layout

/-!
# Drafts of definitions

A draft holds the texts that a definition is written from. Its parameters, ports and body may hold
anything that does not end them too early, headers of other modules included. Drafts are written
one behind the other, each behind a gap, and the scanner finds all of them where they were put.

* `Draft.text`: what is written for a draft.
* `Draft.layout`: the pieces that the scanner cuts a draft into.
* `definitionsFrom_draft`: the scanner lists a draft and goes on behind it.
* `definitions_drafts`: the definitions of a text with any drafts.
-/

namespace DesignAtlas.Written

open Text Source

/-! ### Texts that do not end too early -/

/-- Every parenthesis has its partner. -/
def IsBalanced (text : List Char) : Prop :=
  text.count '(' = text.count ')' ∧ ∀ part, part <+: text → part.count ')' ≤ part.count '('

instance (text : List Char) : Decidable (IsBalanced text) :=
  decidable_of_iff (text.count '(' = text.count ')' ∧
      ∀ part ∈ text.inits, part.count ')' ≤ part.count '(')
    (and_congr_right fun _ => forall_congr' fun part => imp_congr_left (List.mem_inits part text))

/-- A balanced text in parentheses is a block. -/
theorem IsBalanced.isBlock {text : List Char} (h : IsBalanced text) :
    IsBlock ('(' :: (text ++ [')'])) := by
  refine isBlock_cons_iff.2 ⟨?_, fun part hpart hne => ?_⟩
  · simp [h.1]
  · rcases List.prefix_concat_iff.1 hpart with rfl | hinside
    · exact absurd rfl hne
    · exact h.2 part hinside

instance (text : List Char) : Decidable (HoldsListEnd text) :=
  decidable_of_iff _ isSome_listEnd?_none_iff

/-- Behind the text, and nowhere before, stands the keyword that ends a definition. -/
def IsBody (text : List Char) : Prop :=
  ∀ before behind, text ++ endKeyword = before ++ (endKeyword ++ behind) → behind = []

theorem isBody_iff_cut? {text : List Char} :
    IsBody text ↔ cut? endKeyword (text ++ endKeyword) = some (text, []) := by
  rw [cut?_eq_some_iff]
  constructor
  · intro h
    simpa using isFirstCut_append h []
  · rintro ⟨-, hfirst⟩ before behind htext
    have hle := hfirst before behind htext
    have hlength := congrArg List.length htext
    simp only [List.length_append] at hlength
    exact List.eq_nil_of_length_eq_zero (by omega)

instance (text : List Char) : Decidable (IsBody text) :=
  decidable_of_iff _ isBody_iff_cut?.symm

/-! ### Drafts -/

/-- The texts that a definition is written from. -/
structure Draft where
  /-- The text between the definition before and this one. -/
  gap : List Char
  /-- The name of the module. -/
  name : List Char
  /-- The text of the parameter block, if there is one. -/
  parameters : Option (List Char)
  /-- The text of the port list, if there is one. -/
  ports : Option (List Char)
  /-- The text between the header and `endmodule`. -/
  body : List Char
  /-- The gap does not hold the keyword that opens a definition. -/
  gap_free : ¬openKeyword <:+: gap
  /-- A gap ends with a line feed. -/
  gap_end : gap ≠ [] → gap.getLast? = some '\n'
  name_identifier : IsIdentifier name
  parameters_balanced : ∀ text ∈ parameters, IsBalanced text
  /-- The ports do not hold `endmodule`. -/
  ports_free : ∀ text ∈ ports, ¬endKeyword <:+: text
  /-- The ports do not hold a `)` that a semicolon follows. -/
  ports_open : ∀ text ∈ ports, ¬HoldsListEnd text
  body_end : IsBody body

namespace Draft

/-- What separates the parts of a header. -/
def blank : List Char := [' ']

theorem isBlanks_blank : IsBlanks blank := by decide

theorem blank_ne_nil : blank ≠ [] := by decide

/-- The parameter block behind the name. -/
def parameterText (d : Draft) : List Char :=
  d.parameters.elim [] fun text => blank ++ '#' :: '(' :: (text ++ [')'])

/-- The port list behind the parameter block. -/
def portText (d : Draft) : List Char :=
  d.ports.elim [] fun text => blank ++ '(' :: (text ++ [')'])

/-- What is written for a draft. -/
def text (d : Draft) : List Char :=
  d.gap ++ (openKeyword ++ (blank ++ (d.name ++ (d.parameterText ++ (d.portText ++ ';' ::
    (d.body ++ endKeyword))))))

/-- The definition that a draft makes behind some text. -/
def definition (d : Draft) (before : List Char) : Definition :=
  ⟨String.ofList d.name, String.ofList d.body, (before ++ d.gap).count '\n'⟩

variable {d : Draft}

/-- The text between the name and the end of the header: the parameter block, and the blank in
front of the port list. -/
theorem isParameterPart (d : Draft) {blanks : List Char} (hblanks : IsBlanks blanks) :
    IsParameterPart (d.parameterText ++ blanks) := by
  cases hparameters : d.parameters with
  | none => exact .inl (by simpa [parameterText, hparameters] using hblanks)
  | some text =>
    have hblock : IsBlock ('(' :: (text ++ [')'])) :=
      (d.parameters_balanced text hparameters).isBlock
    refine .inr ⟨blank, [], '(' :: (text ++ [')']), blanks, isBlanks_blank, isBlanks_nil, hblock,
      hblanks, ?_⟩
    simp [parameterText, hparameters]

/-- The port list with the semicolon, or the semicolon alone. -/
def headerEnd (d : Draft) : List Char :=
  d.ports.elim [';'] fun text => '(' :: (text ++ [')', ';'])

theorem isHeaderEnd_headerEnd (d : Draft) : IsHeaderEnd d.headerEnd := by
  cases hports : d.ports with
  | none => exact .inl (by simp [headerEnd, hports])
  | some text =>
    refine .inr ⟨text, [], by simp [headerEnd, hports], isBlanks_nil, d.ports_open text hports, ?_⟩
    rintro word ⟨⟩
    exact d.ports_free text hports

/-- The blank in front of a port list. -/
def portBlank (d : Draft) : List Char :=
  d.ports.elim [] fun _ => blank

theorem isBlanks_portBlank (d : Draft) : IsBlanks d.portBlank := by
  cases hports : d.ports with
  | none => simp [portBlank, hports]
  | some text =>
    rw [portBlank, hports]
    exact isBlanks_blank

/-- The pieces of a draft between any two texts. -/
def layout (d : Draft) (before behind : List Char)
    (hword : (before ++ d.gap).getLast?.any isWordChar = false) : Layout where
  before := before ++ d.gap
  gap := blank
  name := d.name
  parameters := d.parameterText ++ d.portBlank
  ports := d.headerEnd
  body := d.body
  behind := behind
  before_word := hword
  gap_ne_nil := blank_ne_nil
  gap_white := fun c hc => isWhiteSpace_of_isBlank (isBlanks_blank c hc)
  name_identifier := d.name_identifier
  parameters_part := d.isParameterPart d.isBlanks_portBlank
  ports_end := d.isHeaderEnd_headerEnd
  body_first := isFirstCut_append d.body_end behind

/-- The blank and the port list are written the same way, whichever piece the blank counts to. -/
theorem portBlank_append_headerEnd (d : Draft) :
    d.portBlank ++ d.headerEnd = d.portText ++ [';'] := by
  cases hports : d.ports <;> simp [portBlank, headerEnd, portText, hports]

theorem text_eq_layout (d : Draft) (before behind : List Char)
    (hword : (before ++ d.gap).getLast?.any isWordChar = false) :
    d.text = d.gap ++ (openKeyword ++ ((d.layout before behind hword).gap ++
      (d.layout before behind hword).tail)) := by
  have hends : ∀ rest, d.portBlank ++ (d.headerEnd ++ rest) = d.portText ++ ';' :: rest := by
    intro rest
    rw [← List.append_assoc, portBlank_append_headerEnd]
    simp
  simp [text, layout, Layout.tail, hends]

/-- Behind a gap that is not empty a word can start. -/
theorem getLast?_append_gap (hgap : d.gap ≠ []) (before : List Char) :
    (before ++ d.gap).getLast?.any isWordChar = false := by
  rw [List.getLast?_append_of_ne_nil before hgap, d.gap_end hgap]
  rfl

/-- The keyword that opens a definition does not start in a gap. -/
theorem not_openKeyword_prefix (d : Draft) {left rest : List Char} (hleft : left <:+ d.gap)
    (hne : left ≠ []) : ¬openKeyword <+: left ++ rest := by
  intro hopening
  obtain ⟨front, hfront⟩ := hleft
  have hlast : left.getLast? = some '\n' := by
    rw [← d.gap_end (by simp [← hfront, hne]), ← hfront, List.getLast?_append_of_ne_nil front hne]
  obtain ⟨inner, rfl⟩ := List.getLast?_eq_some_iff.1 hlast
  -- no character of the keyword is the line feed at the end of the gap
  have hinner : openKeyword <+: inner :=
    prefix_of_prefix_append_cons (c := '\n') (by decide) (by simpa using hopening)
  refine d.gap_free (hinner.isInfix.trans ?_)
  exact ⟨front, ['\n'], by simpa using hfront⟩

end Draft

/-! ### Drafts in a row -/

/-- The definitions that drafts make behind some text. -/
def listed (before : List Char) : List Draft → List Definition
  | [] => []
  | d :: drafts => d.definition before :: listed (before ++ d.text) drafts

/-- The scanner lists a draft and goes on behind it. -/
theorem definitionsFrom_draft (d : Draft) {before : List Char} (rest : List Char)
    (hword : (before ++ d.gap).getLast?.any isWordChar = false) :
    definitionsFrom ⟨before.reverse, d.text ++ rest⟩ =
      d.definition before :: definitionsFrom ⟨(before ++ d.text).reverse, rest⟩ := by
  let l := d.layout before rest hword
  have htext : d.text = d.gap ++ (openKeyword ++ (l.gap ++ l.tail)) :=
    d.text_eq_layout before rest hword
  calc definitionsFrom ⟨before.reverse, d.text ++ rest⟩
      = definitionsFrom ⟨before.reverse,
          d.gap ++ (openKeyword ++ (l.gap ++ (l.tail ++ rest)))⟩ := by
        simp only [htext, List.append_assoc]
    _ = definitionsFrom ⟨l.before.reverse, openKeyword ++ (l.gap ++ (l.tail ++ l.behind))⟩ := by
        rw [definitionsFrom_append fun left hleft hne => d.not_openKeyword_prefix hleft hne]
        simp [l, Draft.layout]
    _ = l.definition :: definitionsFrom
          ⟨(l.before ++ (openKeyword ++ (l.gap ++ l.tail))).reverse, l.behind⟩ :=
        definitionsFrom_layout l
    _ = d.definition before :: definitionsFrom ⟨(before ++ d.text).reverse, rest⟩ := by
        rw [htext]
        simp [l, Layout.definition, Draft.definition, Draft.layout]

/-- The definitions of drafts behind any text, if no gap is empty. -/
theorem definitionsFrom_drafts (drafts : List Draft) {before trailing : List Char}
    (hgaps : ∀ d ∈ drafts, d.gap ≠ []) (htrailing : ¬openKeyword <:+: trailing) :
    definitionsFrom ⟨before.reverse, drafts.flatMap Draft.text ++ trailing⟩ =
      listed before drafts := by
  induction drafts generalizing before with
  | nil => exact definitionsFrom_of_free htrailing
  | cons d drafts ih =>
    have hword := Draft.getLast?_append_gap (hgaps d (by simp)) before
    rw [List.flatMap_cons, List.append_assoc, definitionsFrom_draft d _ hword, listed,
      ih fun other hother => hgaps other (by simp [hother])]

/-- A text of drafts has exactly the definitions that the drafts make. Only the first gap may be
empty. -/
theorem definitions_drafts (drafts : List Draft) (trailing : List Char)
    (hgaps : ∀ d ∈ drafts.tail, d.gap ≠ []) (htrailing : ¬openKeyword <:+: trailing) :
    definitions (String.ofList (drafts.flatMap Draft.text ++ trailing)) = listed [] drafts := by
  rw [definitions, String.toList_ofList, Cursor.start]
  cases drafts with
  | nil => exact definitionsFrom_of_free htrailing
  | cons d drafts =>
    -- nothing stands before the first gap, so a word can start there even if it is empty
    have hword : (([] : List Char) ++ d.gap).getLast?.any isWordChar = false := by
      by_cases hgap : d.gap = []
      · rw [hgap]
        rfl
      · exact Draft.getLast?_append_gap hgap []
    rw [List.flatMap_cons, List.append_assoc]
    exact (definitionsFrom_draft d _ hword).trans
      (congrArg _ (definitionsFrom_drafts drafts hgaps htrailing))

/-- Two drafts: one with semicolons and parentheses in its parameters and ports and with a header
in its body, and one with an empty body. -/
def nestedDrafts : List Draft :=
  [{ gap := []
     name := "outer".toList
     parameters := some "A = f(1); endmodule, B = (2)".toList
     ports := some "input [f(1):0] a; b)\nmodule".toList
     body := "\n  module x (y);\n  sub u1 ( ;\n".toList
     gap_free := by decide
     gap_end := by decide
     name_identifier := by decide
     parameters_balanced := by decide
     ports_free := by decide
     ports_open := by decide
     body_end := by decide },
   { gap := "// ) mod\nule;\n".toList
     name := "module_2".toList
     parameters := none
     ports := none
     body := []
     gap_free := by decide
     gap_end := by decide
     name_identifier := by decide
     parameters_balanced := by decide
     ports_free := by decide
     ports_open := by decide
     body_end := by decide }]

/-- Both are found, although the text behind them starts like the keyword. -/
theorem definitions_drafts_nestedDrafts :
    (∀ d ∈ nestedDrafts.tail, d.gap ≠ []) ∧ ¬openKeyword <:+: "mod".toList ∧
      definitions (String.ofList (nestedDrafts.flatMap Draft.text ++ "mod".toList)) =
        [⟨"outer", "\n  module x (y);\n  sub u1 ( ;\n", 0⟩, ⟨"module_2", "", 6⟩] := by
  have hgaps : ∀ d ∈ nestedDrafts.tail, d.gap ≠ [] := by decide
  have htrailing : ¬openKeyword <:+: "mod".toList := by decide
  refine ⟨hgaps, htrailing, (definitions_drafts nestedDrafts _ hgaps htrailing).trans ?_⟩
  decide

end DesignAtlas.Written
