import DesignAtlas.Text.Cursor

/-!
# Searching for a fixed text

* `cut?` splits a text around the first occurrence of a needle.
* `occurrences` lists the places where a needle stands, each search going on behind the last hit,
  so no two hits overlap.
-/

namespace DesignAtlas.Text

/-- The text before the first occurrence of `needle` and the text behind it. -/
def cut? (needle : List Char) : List Char → Option (List Char × List Char)
  | [] => if needle.isEmpty then some ([], []) else none
  | c :: rest =>
    if needle.isPrefixOf (c :: rest) then some ([], (c :: rest).drop needle.length)
    else (cut? needle rest).map fun parts => (c :: parts.1, parts.2)

/-- The first occurrence cuts the text into what precedes it, the needle and what follows. -/
theorem eq_append_of_cut?_eq_some {needle text before behind : List Char}
    (h : cut? needle text = some (before, behind)) : text = before ++ (needle ++ behind) := by
  induction text generalizing before with
  | nil =>
    by_cases hn : needle = [] <;> simp_all [cut?]
  | cons c rest ih =>
    by_cases hp : needle <+: c :: rest
    · rw [cut?, if_pos (by simpa using hp)] at h
      obtain ⟨tail, ht⟩ := hp
      cases h
      rw [← ht]
      simp
    · rw [cut?, if_neg (by simpa using hp)] at h
      obtain ⟨⟨b, r⟩, hb, hr⟩ := Option.map_eq_some_iff.1 h
      cases hr
      rw [ih hb, List.cons_append]

/-- The places from `c` on where a needle of one character and more stands. -/
def occurrencesFrom (head : Char) (tail : List Char) (c : Cursor) : List Cursor :=
  if h : c.rest = [] then []
  else if (head :: tail).isPrefixOf c.rest then
    c :: occurrencesFrom head tail (c.advance (tail.length + 1))
  else occurrencesFrom head tail (c.advance 1)
termination_by c.rest.length
decreasing_by
  all_goals
    have := List.length_pos_iff.2 h
    simp only [Cursor.length_rest_advance]
    omega

/-- The places where `needle` stands in a text, from left to right and without overlap. The empty
needle stands nowhere. -/
def occurrences (needle text : List Char) : List Cursor :=
  match needle with
  | [] => []
  | head :: tail => occurrencesFrom head tail (Cursor.start text)

end DesignAtlas.Text
