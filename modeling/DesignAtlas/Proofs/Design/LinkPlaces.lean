import DesignAtlas.Proofs.Design.LinkOrder
import DesignAtlas.Proofs.Source.InstanceSteps
import DesignAtlas.Proofs.Source.PlainScan
import DesignAtlas.Proofs.Text.Offsets
import DesignAtlas.Proofs.Workspace.DefinedModules
import DesignAtlas.Proofs.Workspace.Requests
import DesignAtlas.Source.Offset

/-!
# The places of links

An instance of a module is found only where the module's name stands as a whole token. Only the
character in front of the name is looked at; that the name ends where the token does follows from
what has to stand behind it, whether a parameter block is there or not. So a place belongs to one
name, and two links of one place lead to two definitions of that name.

* `IsTokenAt`: an identifier stands as a token at an offset.
* `isTokenAt_of_mem_placedInstances`: the places of instances are tokens.
* `pairwise_agreeInPlace_placedLinks`: links of one place lead to definitions of one name.
* `isIdentifier_of_mem_modules_after`: the modules of a project are named by identifiers.
* `links_at_tokens`: all of it together.
-/

namespace DesignAtlas

namespace Source

open Text

/-- At an offset of a text stands the token `name`: no identifier goes on there, and the maximal
identifier that starts there is `name`. -/
def IsTokenAt (text name : List Char) (offset : Nat) : Prop :=
  Offset.isBoundaryAt text offset = true ∧
    Offset.identifierAt? text offset = some (name, offset + byteLength name)

/-- A token that starts at an offset is the only one that does. -/
theorem IsTokenAt.unique {text name name' : List Char} {offset : Nat}
    (h : IsTokenAt text name offset) (h' : IsTokenAt text name' offset) : name = name' :=
  congrArg Prod.fst (Option.some_inj.1 (h.2.symm.trans h'.2))

/-- Between its two ends an identifier is a token. -/
theorem isTokenAt_append (before : List Char) {name rest : List Char} (hname : IsIdentifier name)
    (hbefore : before.getLast?.any isIdentifierChar = false)
    (hrest : rest.head?.any isIdentifierChar = false) :
    IsTokenAt (before ++ (name ++ rest)) name (byteLength before) := by
  constructor
  · rw [Offset.isBoundaryAt, charsBefore_append, isBoundary, hbefore]
    rfl
  · have hread : identifier? (name ++ rest) = some (name, rest) :=
      identifier?_eq_some_iff.2 ⟨rfl, hname, hrest⟩
    have hstop : Offset.ofRest (before ++ (name ++ rest)) rest =
        byteLength before + byteLength name := by
      simp only [Offset.ofRest, byteLength_append]
      omega
    simp only [Offset.identifierAt?, Cursor.at?_append, Option.bind_eq_bind, Option.bind_some,
      hread, hstop]
    rfl

/-- Where an instance is found behind a name, no identifier goes on: a blank stands there, or the
`#` of a parameter block. -/
theorem head?_of_instanceName? {rest label : List Char} (h : instanceName? rest = some label) :
    rest.head?.any isIdentifierChar = false := by
  cases rest with
  | nil => rfl
  | cons c rest =>
    by_contra hc
    have hchar : isIdentifierChar c = true := by simpa using hc
    have hnone : instanceName? (c :: rest) = none := by
      refine instanceName?_eq_none ?_ ?_
      · simpa using isBlank_eq_false_of_isIdentifierChar hchar
      · intro hhash
        rw [(Option.some_inj.1 hhash : c = '#')] at hchar
        exact absurd hchar (by decide)
    rw [hnone] at h
    cases h

section Instances

variable {body name name' : String} {found found' : Nat × String}

/-- An instance is found at a place where the name of the module stands as a token. -/
theorem isTokenAt_of_mem_placedInstances (hname : IsIdentifier name.toList)
    (h : found ∈ placedInstances body name) :
    IsTokenAt body.toList name.toList found.1 := by
  obtain ⟨c, hc, hinstance⟩ := List.mem_filterMap.1 h
  obtain ⟨label, hlabel, rfl⟩ := Option.map_eq_some_iff.1 hinstance
  obtain ⟨hbody, rest, hrest⟩ := mem_occurrences hc
  rw [instanceAt?] at hlabel
  split at hlabel
  · next hboundary =>
    rw [← hrest, List.drop_left] at hlabel
    have htoken := isTokenAt_append c.before.reverse hname
      (by simpa [isBoundary, Cursor.previous?] using hboundary) (head?_of_instanceName? hlabel)
    rwa [byteLength_reverse, hrest, show c.before.reverse ++ c.rest = body.toList from hbody]
      at htoken
  · cases hlabel

/-- Instances of two modules are found at different places. -/
theorem offset_ne_of_mem_placedInstances (hname : IsIdentifier name.toList)
    (hname' : IsIdentifier name'.toList) (hne : name ≠ name')
    (h : found ∈ placedInstances body name) (h' : found' ∈ placedInstances body name') :
    found.1 ≠ found'.1 := by
  intro hsame
  have htoken := isTokenAt_of_mem_placedInstances hname h
  rw [hsame] at htoken
  exact hne (String.toList_inj.1 (htoken.unique (isTokenAt_of_mem_placedInstances hname' h')))

end Instances

end Source

namespace Registry

/-- If two links stand at one place, they lead to two definitions of one name. -/
def AgreeInPlace (r : Registry) (k l : PlacedLink) : Prop :=
  k.offset = l.offset → r.nameOf k.child = r.nameOf l.child ∧ k.child ≠ l.child

/-- Two links of a body that stand at one place, under identifiers, lead to two definitions of one
name. -/
theorem pairwise_agreeInPlace_placedLinks (r : Registry) (body : String) :
    (r.placedLinks body).Pairwise fun k l =>
      Source.IsIdentifier (r.nameOf k.child).toList →
        Source.IsIdentifier (r.nameOf l.child).toList → r.AgreeInPlace k l := by
  refine (pairwise_placedLinks r body).imp_of_mem ?_
  intro k l hk hl hprecedes hkname hlname hoffset
  obtain ⟨m, hm, hkplaced⟩ := mem_placedLinks_iff.1 hk
  obtain ⟨n, hn, hlplaced⟩ := mem_placedLinks_iff.1 hl
  rw [nameOf_of_get? hm] at hkname ⊢
  rw [nameOf_of_get? hn] at hlname ⊢
  have hname : m.name = n.name := by
    by_contra hne
    exact Source.offset_ne_of_mem_placedInstances hkname hlname hne hkplaced hlplaced hoffset
  refine ⟨hname, ?_⟩
  -- of two links under one name, at one place, the first leads to the definition registered first
  rcases hprecedes with hlt | ⟨-, hlt | ⟨-, hlt⟩⟩
  · rw [nameOf_of_get? hm, nameOf_of_get? hn, hname] at hlt
    exact absurd hlt (Nat.lt_irrefl _)
  · exact absurd hlt (hoffset ▸ Nat.lt_irrefl _)
  · exact Nat.ne_of_lt hlt

end Registry

/-! ### Names of the modules of a project -/

namespace Analysis

/-- The modules that an analysis registers are named by identifiers. -/
theorem isIdentifier_of_mem_modules {storage : Storage} {schedule : Schedule} {root : Path}
    {entries : List Entry} {m : Module}
    (hm : m ∈ (ofEntries storage schedule root entries).registry.modules) :
    Source.IsIdentifier m.name.toList := by
  obtain ⟨source, -, bytes, -, d, hd, rfl⟩ := exists_definition_of_mem_modules hm
  exact Source.isIdentifier_of_mem_definitions hd

end Analysis

namespace Project

/-- All modules of a project are named by identifiers. -/
def IsNamedByIdentifiers (p : Project) : Prop :=
  ∀ m ∈ p.registry.modules, Source.IsIdentifier m.name.toList

theorem isNamedByIdentifiers_of_analysis?_eq_none {p : Project} (h : p.analysis? = none) :
    p.IsNamedByIdentifiers := by
  rw [IsNamedByIdentifiers, registry, h]
  intro m hm
  cases hm

/-- Every request keeps the modules named by identifiers. -/
theorem IsNamedByIdentifiers.answer {p : Project} (h : p.IsNamedByIdentifiers)
    (request : Request) : (p.answer request).IsNamedByIdentifiers := by
  cases request with
  | analyze storage schedule =>
    simp only [Project.answer, Project.analyze]
    split
    · split
      · exact fun m => Analysis.isIdentifier_of_mem_modules
      · exact isNamedByIdentifiers_of_analysis?_eq_none rfl
    · exact h
  | clear => exact isNamedByIdentifiers_of_analysis?_eq_none rfl
  | expand storage names =>
    simp only [Project.answer]
    split
    · next expanded hexpand =>
      rw [IsNamedByIdentifiers, registry_of_expand hexpand]
      exact h
    · exact h

/-- After any requests the modules of a project are named by identifiers. -/
theorem isIdentifier_of_mem_modules_after (root : Path) (requests : List Request) :
    ((ofRoot root).after requests).IsNamedByIdentifiers := by
  have hkeeps : ∀ p : Project, p.IsNamedByIdentifiers →
      (p.after requests).IsNamedByIdentifiers := by
    induction requests with
    | nil => exact fun p h => h
    | cons request requests ih => exact fun p h => ih (p.answer request) (h.answer request)
  exact hkeeps _ (isNamedByIdentifiers_of_analysis?_eq_none rfl)

end Project

/-! ### Links and tokens -/

/-- The instances of a module in a body stand where the name of the module is a token, so the
instances of two modules never stand at one place. Of the links of a body two stand at one place
only if they lead to two definitions of one name, as far as their names are identifiers; and in a
project all names are. -/
theorem links_at_tokens (body : String) :
    (∀ name, Source.IsIdentifier name.toList →
      (Source.placedInstances body name).map Prod.snd = Source.instanceNames body name ∧
      (∀ found ∈ Source.placedInstances body name,
        Source.IsTokenAt body.toList name.toList found.1) ∧
      ∀ other, Source.IsIdentifier other.toList → name ≠ other →
        ∀ found ∈ Source.placedInstances body name,
          ∀ found' ∈ Source.placedInstances body other, found.1 ≠ found'.1) ∧
    (∀ r : Registry,
      (r.placedLinks body).map (fun l => (l.label, l.child)) = r.linksIn body ∧
      (r.placedLinks body).Pairwise fun k l =>
        Source.IsIdentifier (r.nameOf k.child).toList →
          Source.IsIdentifier (r.nameOf l.child).toList → r.AgreeInPlace k l) ∧
    ∀ root requests,
      (((Project.ofRoot root).after requests).registry.placedLinks body).Pairwise
        ((Project.ofRoot root).after requests).registry.AgreeInPlace := by
  refine ⟨fun name hname => ⟨?_, ?_, ?_⟩, fun r => ⟨?_, ?_⟩, fun root requests => ?_⟩
  · exact Source.map_snd_placedInstances body name
  · exact fun found hfound => Source.isTokenAt_of_mem_placedInstances hname hfound
  · exact fun other hother hne found hfound found' hfound' =>
      Source.offset_ne_of_mem_placedInstances hname hother hne hfound hfound'
  · exact Registry.map_placedLinks r body
  · exact Registry.pairwise_agreeInPlace_placedLinks r body
  · -- every link leads to a module, and modules of a project are named by identifiers
    have hnamed : ∀ l ∈ ((Project.ofRoot root).after requests).registry.placedLinks body,
        Source.IsIdentifier
          (((Project.ofRoot root).after requests).registry.nameOf l.child).toList := by
      intro l hl
      obtain ⟨m, hm, -⟩ := Registry.mem_placedLinks_iff.1 hl
      rw [Registry.nameOf_of_get? hm]
      exact Project.isIdentifier_of_mem_modules_after root requests m (List.mem_of_getElem? hm)
    exact (Registry.pairwise_agreeInPlace_placedLinks _ body).imp_of_mem fun hk hl h =>
      h (hnamed _ hk) (hnamed _ hl)

/-- Of two names that start alike each is found at its own place only, with and without a parameter
block behind it. -/
theorem links_at_tokens_prefixes :
    Source.IsTokenAt "ab v (y);  a #(1) u (x);".toList "a".toList 11 ∧
      Source.IsTokenAt "ab v (y);  a #(1) u (x);".toList "ab".toList 0 ∧
      (∀ found ∈ Source.placedInstances "ab v (y);  a #(1) u (x);" "a",
        ∀ found' ∈ Source.placedInstances "ab v (y);  a #(1) u (x);" "ab", found.1 ≠ found'.1) := by
  obtain ⟨htokens, -, -⟩ := links_at_tokens "ab v (y);  a #(1) u (x);"
  refine ⟨?_, ?_, ?_⟩
  · exact (htokens "a" (by decide)).2.1 (11, "u") (by decide +kernel)
  · exact (htokens "ab" (by decide)).2.1 (0, "v") (by decide +kernel)
  · exact (htokens "a" (by decide)).2.2 "ab" (by decide) (by decide)

end DesignAtlas
