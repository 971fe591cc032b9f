/-!
# Include directives

An include directive names a file: a backquote, the word `include`, one space, and the name
between double quotes on one line.

* `includedNames` lists the names from left to right, repeats kept. A directive whose closing
  quote is missing on its line is passed over.
-/

namespace DesignAtlas.Source

/-- What stands before the name in an include directive. -/
def includeOpening : List Char := "`include \"".toList

/-- The text up to the first double quote and the text behind it, if that quote stands on the same
line. -/
def upToQuote? : List Char → Option (List Char × List Char)
  | [] => none
  | c :: rest =>
    if c = '"' then some ([], rest)
    else if c = '\n' then none
    else (upToQuote? rest).map fun parts => (c :: parts.1, parts.2)

/-- The name in the directive at the start of a text, and the text behind the directive. -/
def directive? (text : List Char) : Option (List Char × List Char) :=
  if includeOpening.isPrefixOf text then upToQuote? (text.drop includeOpening.length) else none

theorem eq_append_of_upToQuote? {text name rest : List Char}
    (h : upToQuote? text = some (name, rest)) : text = name ++ '"' :: rest := by
  induction text generalizing name with
  | nil => simp [upToQuote?] at h
  | cons c text ih =>
    rw [upToQuote?] at h
    split at h
    · next hc =>
      cases h
      simp [hc]
    · split at h
      · simp at h
      · obtain ⟨⟨n, r⟩, hn, hr⟩ := Option.map_eq_some_iff.1 h
        cases hr
        simp [ih hn]

theorem length_lt_of_directive? {text name rest : List Char}
    (h : directive? text = some (name, rest)) : rest.length < text.length := by
  unfold directive? at h
  split at h
  · have := congrArg List.length (eq_append_of_upToQuote? h)
    simp only [List.length_drop, List.length_append, List.length_cons] at this
    omega
  · simp at h

/-- The names of the include directives in a text. -/
def includedNamesFrom (text : List Char) : List String :=
  match text with
  | [] => []
  | c :: rest =>
    match _h : directive? (c :: rest) with
    | some (name, behind) => String.ofList name :: includedNamesFrom behind
    | none => includedNamesFrom rest
termination_by text.length
decreasing_by
  · exact length_lt_of_directive? _h
  · simp

/-- The file names that a source text includes, in order and with repeats. -/
def includedNames (text : String) : List String :=
  includedNamesFrom text.toList

end DesignAtlas.Source
