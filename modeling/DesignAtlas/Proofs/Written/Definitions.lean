import DesignAtlas.Proofs.Written.Text

/-!
# Definitions in written files

Each module of a written file is laid out as a definition, and between two of them stands nothing
but a line feed, so the definitions of the file are its modules.

* `Module.layout`: the pieces of a written module.
* `definitionsFrom_text`: the definitions of written modules behind any text that ends a word.
* `definitions_text`: the definitions of a written file.
-/

namespace DesignAtlas.Written

open Text Source

/-- The definitions that written modules make, if the first one starts on a line. -/
def definitionsOf (line : Nat) : List Module → List Definition
  | [] => []
  | m :: modules =>
    ⟨m.name.string, String.ofList m.body, line⟩ ::
      definitionsOf (line + (m.instances.length + 2)) modules

/-- The body of a written module ends with a line feed. -/
theorem Module.exists_body_append (m : Module) : ∃ front, m.body = front ++ ['\n'] := by
  rcases List.eq_nil_or_concat m.instances with hnil | ⟨front, i, hlast⟩
  · exact ⟨[], by simp [body, hnil]⟩
  · refine ⟨'\n' :: (front.flatMap Instance.text ++ ' ' :: ' ' :: (i.child.text ++ ' ' ::
      (i.label.text ++ '(' :: (portsText i.ports ++ [')', ';'])))), ?_⟩
    simp [body, hlast, Instance.text]

/-- The body of a written module ends at the first `endmodule`. -/
theorem Module.isFirstCut_body (m : Module) (behind : List Char) :
    IsFirstCut endKeyword (m.body ++ (endKeyword ++ behind)) m.body behind := by
  -- the last character of the body keeps the keyword from starting inside of it
  obtain ⟨front, hfront⟩ := m.exists_body_append
  have hfree : ¬endKeyword <:+: front := fun h =>
    free_body m (hfront ▸ h.trans (List.prefix_append front ['\n']).isInfix)
  rw [hfront, List.append_assoc, List.singleton_append]
  exact isFirstCut_of_last (by decide) hfree

/-- The pieces of a written module between a text that ends a word and any other text. -/
def Module.layout (m : Module) (before behind : List Char)
    (hbefore : before.getLast?.any isWordChar = false) : Layout where
  before := before
  gap := [' ']
  name := m.name.text
  parameters := []
  ports := [';']
  body := m.body
  behind := behind
  before_word := hbefore
  gap_ne_nil := by simp
  gap_white := List.all_eq_true.1 (by decide)
  name_identifier := m.name.identifier
  parameters_part := .inl isBlanks_nil
  ports_end := .inl rfl
  body_first := m.isFirstCut_body behind

/-- The definitions of written modules behind any text that ends a word. -/
theorem definitionsFrom_text (modules : List Module) {before : List Char}
    (hbefore : before.head?.any isWordChar = false) :
    definitionsFrom ⟨before, modules.flatMap Module.text⟩ =
      definitionsOf (before.count '\n') modules := by
  induction modules generalizing before with
  | nil =>
    rw [List.flatMap_nil, definitionsFrom, dif_pos rfl]
    rfl
  | cons m modules ih =>
    let next := modules.flatMap Module.text
    let l := m.layout before.reverse ('\n' :: next) (by rwa [List.getLast?_reverse])
    let done := (l.before ++ (openKeyword ++ (l.gap ++ l.tail))).reverse
    have htext : (m :: modules).flatMap Module.text =
        openKeyword ++ (l.gap ++ (l.tail ++ l.behind)) := by
      simp [l, next, Module.layout, Layout.tail, Module.text]
    have hdone : '\n' :: done = m.text.reverse ++ before := by
      simp [done, l, Module.layout, Layout.tail, Module.text]
    -- at the line feed behind `endmodule` no header opens
    have hfeed : headerName? done.head? ('\n' :: next) = none := by
      refine Option.eq_none_iff_forall_ne_some.2 fun name hname => ?_
      obtain ⟨-, -, gap, hgap, -⟩ := headerName?_eq_some_iff.1 hname
      exact absurd (List.cons_eq_cons.1 hgap).1 (by decide)
    have hline : ('\n' :: done).count '\n' = before.count '\n' + (m.instances.length + 2) := by
      rw [hdone, List.count_append, List.count_reverse, m.count_text, Nat.add_comm]
    calc definitionsFrom ⟨before, (m :: modules).flatMap Module.text⟩
        = definitionsFrom ⟨l.before.reverse, openKeyword ++ (l.gap ++ (l.tail ++ l.behind))⟩ := by
          rw [htext, show l.before.reverse = before from List.reverse_reverse before]
      _ = l.definition :: definitionsFrom ⟨done, '\n' :: next⟩ := definitionsFrom_layout l
      _ = l.definition :: definitionsFrom ⟨'\n' :: done, next⟩ := by rw [definitionsFrom_cons hfeed]
      _ = definitionsOf (before.count '\n') (m :: modules) := by
          rw [ih rfl, hline, definitionsOf]
          simp [l, Layout.definition, Module.layout, Name.string]

/-- The definitions of a written file are its modules. -/
theorem definitions_text (f : File) :
    definitions (String.ofList f.text) = definitionsOf 0 f.modules := by
  rw [definitions, String.toList_ofList]
  exact definitionsFrom_text f.modules rfl

end DesignAtlas.Written
