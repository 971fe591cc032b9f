import DesignAtlas.Proofs.Source.PlainScan

/-!
# How far headers extend

A port list ends before the first `endmodule` behind its parenthesis, so no port list extends over
the end of a module. A parameter block ends where its parentheses are balanced, whatever stands
inside. So a block that is not closed in its own module is closed by a later one, and the later
module is part of the header then.

* `Layout.header`: the text between the name of a module and its body.
* `Layout.endKeyword_infix_header_iff`: only the parameters can hold an `endmodule`.
* `Layout.isFirstCut_header_iff`: a definition whose header holds no `endmodule` ends at the first
  one behind its name.
* `endKeyword_in_headers`: the headers of all definitions of a text.
* `definitions_overrunning`: a block that is closed by a later module.
-/

namespace DesignAtlas.Source

open Text

/-! ### `endmodule` in the pieces of a header -/

theorem IsBlanks.not_endKeyword_infix {blanks : List Char} (h : IsBlanks blanks) :
    ¬endKeyword <:+: blanks := by
  intro held
  have hmem : 'e' ∈ blanks := held.subset (by decide)
  exact absurd (h 'e' hmem) (by decide)

/-- The keyword does not reach into blanks. -/
theorem endKeyword_infix_append_blanks_iff {front blanks : List Char} (h : IsBlanks blanks) :
    endKeyword <:+: front ++ blanks ↔ endKeyword <:+: front := by
  cases blanks with
  | nil => rw [List.append_nil]
  | cons c blanks =>
    have hletters : endKeyword.all (fun c => !isBlank c) = true := by decide
    have hc : c ∉ endKeyword := by
      intro hc
      have hblank : isBlank c = true := h c List.mem_cons_self
      have hletter := List.all_eq_true.1 hletters c hc
      rw [hblank] at hletter
      exact Bool.noConfusion hletter
    have hblanks : IsBlanks blanks := fun c hc => h c (List.mem_cons_of_mem _ hc)
    rw [infix_append_cons_iff hc]
    exact or_iff_left hblanks.not_endKeyword_infix

/-- The end of a header does not hold the keyword. -/
theorem IsHeaderEnd.not_endKeyword_infix {part : List Char} (h : IsHeaderEnd part) :
    ¬endKeyword <:+: part := by
  rcases h with rfl | ⟨list, blanks, rfl, hblanks, -, hfree⟩
  · decide
  · have hlist : ¬endKeyword <:+: list := hfree endKeyword rfl
    have hopen : endKeyword <:+: [] ++ '(' :: (list ++ ')' :: (blanks ++ [';'])) ↔ _ :=
      infix_append_cons_iff (by decide)
    rw [List.nil_append] at hopen
    -- the keyword lies between two of the delimiters
    rw [hopen, infix_append_cons_iff (by decide), infix_append_cons_iff (by decide)]
    rintro (hnil | hinside | hbetween | hnil)
    · exact absurd hnil (by decide)
    · exact hlist hinside
    · exact hblanks.not_endKeyword_infix hbetween
    · exact absurd hnil (by decide)

/-- The text between the name and the end of a header holds the keyword if the block in it does. -/
theorem IsParameterPart.endKeyword_infix_iff {part : List Char} (h : IsParameterPart part) :
    endKeyword <:+: part ↔ ∃ block, IsBlock block ∧ block <:+: part ∧ endKeyword <:+: block := by
  constructor
  · intro hpart
    rcases h with hblanks | ⟨front, inner, block, back, hfront, hinner, hblock, hback, rfl⟩
    · exact absurd hpart hblanks.not_endKeyword_infix
    · refine ⟨block, hblock, ⟨front ++ '#' :: inner, back, by simp⟩, ?_⟩
      obtain ⟨inside, rfl⟩ := List.head?_eq_some_iff.1 hblock.1
      rw [infix_append_cons_iff (by decide), ← List.append_assoc,
        endKeyword_infix_append_blanks_iff hback, infix_append_cons_iff (by decide)] at hpart
      rcases hpart with hpart | hpart | hpart
      · exact absurd hpart hfront.not_endKeyword_infix
      · exact absurd hpart hinner.not_endKeyword_infix
      · exact hpart.trans (List.suffix_cons _ _).isInfix
  · rintro ⟨block, -, hblock, hend⟩
    exact hend.trans hblock

/-! ### Headers -/

namespace Layout

/-- The text between the name of a module and its body: the parameter block and the port list. -/
def header (l : Layout) : List Char :=
  l.parameters ++ l.ports

/-- A header holds the keyword that ends a definition only in its parameters. -/
theorem endKeyword_infix_header_iff (l : Layout) :
    endKeyword <:+: l.header ↔ endKeyword <:+: l.parameters := by
  obtain ⟨c, rest, hports, hc⟩ := l.ports_end.exists_cons
  have hc : c ∉ endKeyword := by rcases hc with rfl | rfl <;> decide
  have hrest : ¬endKeyword <:+: rest := by
    intro h
    refine l.ports_end.not_endKeyword_infix (h.trans ?_)
    rw [hports]
    exact (List.suffix_cons c rest).isInfix
  rw [header, hports, infix_append_cons_iff hc]
  exact or_iff_left hrest

/-- A header ends with a semicolon. -/
theorem exists_header_eq (l : Layout) : ∃ front, l.header = front ++ [';'] := by
  rcases l.ports_end with hports | ⟨list, blanks, hports, -⟩
  · exact ⟨l.parameters, by rw [header, hports]⟩
  · exact ⟨l.parameters ++ '(' :: (list ++ ')' :: blanks), by simp [header, hports]⟩

/-- A definition ends at the first `endmodule` behind its name exactly if its header holds none. -/
theorem isFirstCut_header_iff (l : Layout) :
    IsFirstCut endKeyword (l.header ++ (l.body ++ (endKeyword ++ l.behind)))
        (l.header ++ l.body) l.behind ↔ ¬endKeyword <:+: l.header := by
  constructor
  · rintro ⟨-, hfirst⟩ ⟨front, back, hheader⟩
    -- an `endmodule` of the header would come before the first one
    have hle := hfirst front (back ++ (l.body ++ (endKeyword ++ l.behind))) (by simp [← hheader])
    have hlength := congrArg List.length hheader
    have hpos : 0 < endKeyword.length := by decide
    simp only [List.length_append] at hle hlength
    omega
  · intro hfree
    obtain ⟨front, hheader⟩ := l.exists_header_eq
    have hfront : ¬endKeyword <:+: front := by
      intro h
      refine hfree (h.trans ?_)
      rw [hheader]
      exact (List.prefix_append front [';']).isInfix
    have hlast : ';' ∉ endKeyword := by decide
    have hcut := l.body_first.append hlast hfront
    simpa [hheader] using hcut

end Layout

/-- The definitions of a text are laid out one behind the other. The header of a definition holds
an `endmodule` exactly if it has a parameter block that does; all other definitions end at the first
`endmodule` behind their names, and these only. -/
theorem endKeyword_in_headers (text : String) :
    ∃ layouts : List Layout, layouts.map Layout.definition = definitions text ∧
      layouts.Pairwise (fun k l => k.next ≤ l.offset) ∧
      ∀ l ∈ layouts, l.text = text.toList ∧
        (endKeyword <:+: l.header ↔
          ∃ block, IsBlock block ∧ block <:+: l.parameters ∧ endKeyword <:+: block) ∧
        (¬endKeyword <:+: l.header ↔
          IsFirstCut endKeyword (l.header ++ (l.body ++ (endKeyword ++ l.behind)))
            (l.header ++ l.body) l.behind) := by
  obtain ⟨layouts, hmap, htext, hpairwise⟩ := exists_layouts_definitions text
  refine ⟨layouts, hmap, hpairwise, fun l hl => ⟨htext l hl, ?_, l.isFirstCut_header_iff.symm⟩⟩
  rw [l.endKeyword_infix_header_iff]
  exact l.parameters_part.endKeyword_infix_iff

/-! ### A block that is closed by a later module -/

theorem isBlock_iff_balanced? {block : List Char} : IsBlock block ↔ balanced? block = some [] := by
  simp [balanced?_eq_some_iff]

instance (block : List Char) : Decidable (IsBlock block) :=
  decidable_of_iff _ isBlock_iff_balanced?.symm

/-- A module whose parameter block is not closed, and a later one with parentheses in a comment. -/
def overrunning : String :=
  "module bad #(parameter W = 8\nendmodule\nmodule good;\n  // a) (spare);\nendmodule\n"

/-- The first module with the header that it gets: the comment closes its parameter block. -/
def overrunningLayout : Layout where
  before := []
  gap := " ".toList
  name := "bad".toList
  parameters := " #(parameter W = 8\nendmodule\nmodule good;\n  // a) ".toList
  ports := "(spare);".toList
  body := "\n".toList
  behind := "\n".toList
  before_word := by decide
  gap_ne_nil := by decide
  gap_white := List.all_eq_true.1 (by decide)
  name_identifier := by decide
  parameters_part :=
    .inr ⟨" ".toList, [], "(parameter W = 8\nendmodule\nmodule good;\n  // a)".toList,
      " ".toList, by decide +kernel, by decide +kernel, by decide +kernel, by decide +kernel,
      by decide +kernel⟩
  ports_end := by
    have hlist : ¬HoldsListEnd "spare".toList := by
      rw [← isSome_listEnd?_none_iff]
      decide
    refine .inr ⟨"spare".toList, [], by decide, isBlanks_nil, hlist, ?_⟩
    rintro word ⟨⟩
    decide
  body_first := cut?_eq_some_iff.1 (by decide +kernel)

/-- The place of the later module. -/
def laterModule : Cursor :=
  ⟨"module bad #(parameter W = 8\nendmodule\n".toList.reverse,
    "module good;\n  // a) (spare);\nendmodule\n".toList⟩

/-- The only definition listed is the first module, whose header holds an `endmodule`. The later
module stands in the text as well, but it is part of that header. -/
theorem definitions_overrunning :
    definitions overrunning = [overrunningLayout.definition] ∧
      overrunningLayout.text = overrunning.toList ∧
      overrunningLayout.definition = ⟨"bad", "\n", 0⟩ ∧
      endKeyword <:+: overrunningLayout.header ∧
      StandsAt overrunning.toList 39 ⟨"good", "\n  // a) (spare);\n", 2⟩ 78 := by
  refine ⟨by decide +kernel, by decide +kernel, by decide +kernel, by decide +kernel, ?_⟩
  have htext : laterModule.text = overrunning.toList := by decide +kernel
  have hoffset : laterModule.offset = 39 := by decide +kernel
  rw [← htext, ← hoffset]
  exact standsAt_iff.2 ⟨_, _, rfl, rfl, by decide +kernel, by decide +kernel⟩

end DesignAtlas.Source
