import DesignAtlas.Proofs.Source.InstanceSteps
import DesignAtlas.Proofs.Written.Text

/-!
# Instances in written bodies

A written body is a row of identifiers with other characters between them. In every line the module
is the only name that a blank and another name with a parenthesis follow, so a line makes an
instance of that module and of no other one.

* `instancesFrom_instance`: what a search finds in the line of an instance.
* `instanceNames_body`: the instances found in a written body are those written for the module.
-/

namespace DesignAtlas.Written

open Text Source

variable {before rest : List Char}

/-! ### Written lines -/

/-- An identifier that neither a blank nor a `#` follows is no instance, whatever is looked for. -/
theorem instancesFrom_name (name : Name) {token : Name} {c : Char}
    (hbefore : before.head?.any isIdentifierChar = false) (hchar : isIdentifierChar c = false)
    (hblank : isBlank c = false) (hhash : c ≠ '#') :
    instancesFrom name.text before (token.text ++ c :: rest) =
      instancesFrom name.text (c :: (token.text.reverse ++ before)) rest := by
  have hnone : instanceName? (c :: rest) = none :=
    instanceName?_eq_none (by simpa using hblank) (by simpa using hhash)
  rw [instancesFrom_identifier name.identifier token.identifier hbefore (by simpa using hchar),
    hnone, ite_self, Option.toList_none, List.nil_append,
    instancesFrom_cons name.identifier hchar]

/-- In the list of the ports nothing is found. -/
theorem instancesFrom_ports (name : Name) (ports : List Name)
    (hbefore : before.head?.any isIdentifierChar = false) :
    instancesFrom name.text before (portsText ports ++ ')' :: rest) =
      instancesFrom name.text (')' :: ((portsText ports).reverse ++ before)) rest := by
  fun_induction portsText ports generalizing before with
  | case1 => exact instancesFrom_cons name.identifier (by decide)
  | case2 port => exact instancesFrom_name name hbefore (by decide) (by decide) (by decide)
  | case3 port next ports ih =>
    -- behind the comma and the blank the next port starts a word
    rw [List.append_assoc, List.cons_append, List.cons_append,
      instancesFrom_name name hbefore (by decide) (by decide) (by decide),
      instancesFrom_cons name.identifier (by decide), ih rfl]
    simp

/-- What stands behind the name of a module in a written line makes an instance. -/
theorem instanceName?_written (i : Instance) :
    instanceName? (' ' :: (i.label.text ++ '(' :: (portsText i.ports ++ ')' :: ';' :: rest))) =
      some i.label.text := by
  refine instanceName?_eq_some_iff.2 ⟨[], [' '], [], portsText i.ports ++ ')' :: ';' :: rest, rfl,
    .inl rfl, by simp, by decide, i.label.identifier, isBlanks_nil, ?_⟩
  exact ⟨portsText i.ports, [], rest, isBlanks_nil, rfl⟩

/-- In the line of an instance the search for its module finds the instance, and any other search
finds nothing. -/
theorem instancesFrom_instance (name : Name) (i : Instance) :
    instancesFrom name.text before (i.text ++ rest) =
      (if i.child = name then [i.label.text] else []) ++
        instancesFrom name.text (i.text.reverse ++ before) rest := by
  have hchild : (if i.child.text = name.text then some i.label.text else none).toList =
      if i.child = name then [i.label.text] else [] := by
    by_cases hchild : i.child = name
    · rw [if_pos (Name.text_inj.2 hchild), if_pos hchild, Option.toList_some]
    · rw [if_neg (Name.text_inj.not.2 hchild), if_neg hchild, Option.toList_none]
  simp only [Instance.text, List.cons_append, List.append_assoc, List.nil_append]
  rw [instancesFrom_cons name.identifier (by decide),
    instancesFrom_cons name.identifier (by decide),
    instancesFrom_identifier name.identifier i.child.identifier rfl rfl, instanceName?_written,
    hchild]
  congr 1
  -- behind the name of the module nothing else on the line makes an instance
  rw [instancesFrom_cons name.identifier (by decide),
    instancesFrom_name name rfl (by decide) (by decide) (by decide),
    instancesFrom_ports name i.ports rfl, instancesFrom_cons name.identifier (by decide),
    instancesFrom_cons name.identifier (by decide)]
  simp

/-- The instances found in a written body are those written for the module. -/
theorem instanceNames_body (m : Module) (name : Name) :
    instanceNames (String.ofList m.body) name.string =
      (m.instances.filter fun i => i.child == name).map fun i => i.label.string := by
  -- whatever stands before a line does not matter to the search
  have hlines : ∀ before, instancesFrom name.text before (m.instances.flatMap Instance.text) =
      (m.instances.filter fun i => i.child == name).map fun i => i.label.text := by
    induction m.instances with
    | nil => exact fun before => instancesFrom_nil name.identifier
    | cons i instances ih =>
      intro before
      rw [List.flatMap_cons, instancesFrom_instance, ih, List.filter_cons]
      by_cases hchild : i.child = name
      · simp [hchild]
      · simp [hchild]
  have hname : IsIdentifier name.string.toList := by
    rw [Name.string, String.toList_ofList]
    exact name.identifier
  rw [instanceNames_eq_instancesFrom hname, Name.string, String.toList_ofList,
    String.toList_ofList]
  have hbody := (instancesFrom_cons name.identifier (by decide)).trans (hlines ['\n'])
  exact (congrArg (List.map String.ofList) hbody).trans (List.map_map ..)

end DesignAtlas.Written
