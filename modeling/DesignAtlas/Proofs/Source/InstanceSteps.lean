import DesignAtlas.Proofs.Source.InstanceOffsets

/-!
# Steps of a search for instances

A search for the instances of a module goes on over one character that no identifier holds, or over
one whole identifier. An identifier is an instance only if it is the name of the module itself.

* `instancesFrom_cons`: nothing is found at a character between identifiers.
* `instancesFrom_identifier`: what is found at an identifier, and nothing inside of it.
-/

namespace DesignAtlas.Source

open Text

variable {name before rest : List Char}

theorem instancesFrom_nil (hname : IsIdentifier name) : instancesFrom name before [] = [] := by
  obtain ⟨c, tail, rfl, -⟩ := hname.exists_cons
  rfl

/-- At a character that no identifier holds nothing is found. -/
theorem instancesFrom_cons (hname : IsIdentifier name) {c : Char}
    (hc : isIdentifierChar c = false) :
    instancesFrom name before (c :: rest) = instancesFrom name (c :: before) rest := by
  have hhere : instanceHere? name ⟨before, c :: rest⟩ = none := by
    refine if_neg fun hprefix => ?_
    obtain ⟨x, tail, rfl, hx⟩ := hname.exists_cons
    obtain ⟨behind, hbehind⟩ := List.isPrefixOf_iff_prefix.1 hprefix
    obtain rfl := (List.cons_eq_cons.1 hbehind).1
    rw [isIdentifierChar_of_isIdentifierStart hx] at hc
    exact Bool.noConfusion hc
  rw [instancesFrom_step, hhere, Option.toList_none, List.nil_append]

/-- Without a blank and without a `#` nothing makes an instance. -/
theorem instanceName?_eq_none (hblank : rest.head?.any isBlank = false)
    (hhash : rest.head? ≠ some '#') : instanceName? rest = none := by
  have hskip : skipBlanks rest = rest := by
    cases rest with
    | nil => rfl
    | cons c rest => exact skipBlanks_cons (by simpa using hblank)
  have hoverrides : behindOverrides? rest = some rest := by
    refine behindOverrides?_of_no_hash fun behind hbehind => hhash ?_
    rw [← hskip, hbehind, List.head?_cons]
  simp [instanceName?, hoverrides, hblank]

/-- At the start of a whole identifier an instance is found only if it is the name looked for. -/
theorem instanceHere?_identifier (hname : IsIdentifier name) {token : List Char}
    (htoken : IsIdentifier token) (hbefore : before.head?.any isIdentifierChar = false)
    (hrest : rest.head?.any isIdentifierChar = false) :
    instanceHere? name ⟨before, token ++ rest⟩ =
      if token = name then instanceName? rest else none := by
  have hboundary : isBoundary (Cursor.previous? ⟨before, token ++ rest⟩) = true := by
    simpa [isBoundary, Cursor.previous?] using hbefore
  by_cases hprefix : name <+: token ++ rest
  · obtain ⟨behind, hbehind⟩ := hprefix
    rw [instanceHere?, if_pos (by simp [← hbehind]), instanceAt?, if_pos hboundary]
    dsimp only
    rw [← hbehind, List.drop_left]
    rcases List.append_eq_append_iff.1 hbehind with ⟨more, htail, hmore⟩ | ⟨more, htail, hmore⟩
    · cases more with
      | nil => rw [if_pos (by simp [htail]), hmore, List.nil_append]
      | cons c more =>
        -- the identifier goes on behind the name
        have hc : isIdentifierChar c = true := htoken.2 c (by simp [htail])
        rw [if_neg (by simp [htail]), hmore]
        refine instanceName?_eq_none ?_ ?_
        · simpa using isBlank_eq_false_of_isIdentifierChar hc
        · rintro h
          rw [(Option.some_inj.1 h : c = '#')] at hc
          exact absurd hc (by decide)
    · cases more with
      | nil => rw [if_pos (by simpa using htail.symm), hmore, List.nil_append]
      | cons c more =>
        -- the name would go on behind the identifier
        have hc : isIdentifierChar c = true := hname.2 c (by simp [htail])
        rw [hmore] at hrest
        simp [hc] at hrest
  · rw [instanceHere?, if_neg (by simpa using hprefix), if_neg]
    rintro rfl
    exact hprefix (List.prefix_append token rest)

/-- A search goes on behind an identifier, inside of which nothing is found. -/
theorem instancesFrom_identifier (hname : IsIdentifier name) {token : List Char}
    (htoken : IsIdentifier token) (hbefore : before.head?.any isIdentifierChar = false)
    (hrest : rest.head?.any isIdentifierChar = false) :
    instancesFrom name before (token ++ rest) =
      (if token = name then instanceName? rest else none).toList ++
        instancesFrom name (token.reverse ++ before) rest := by
  have hhere := instanceHere?_identifier hname htoken hbefore hrest
  -- one step at the first character, and then to the end of the identifier at once
  obtain ⟨c, tail, rfl, -⟩ := htoken.exists_cons
  rw [List.cons_append] at hhere
  rw [List.cons_append, instancesFrom_step, hhere, instancesFrom_inside htoken.2,
    List.reverse_cons, List.append_assoc, List.singleton_append]

end DesignAtlas.Source
