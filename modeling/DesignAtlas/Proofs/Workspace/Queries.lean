import DesignAtlas.Proofs.Design.CallHistory
import DesignAtlas.Proofs.Source.PlainScan
import DesignAtlas.Proofs.Text.ByteOrder
import DesignAtlas.Proofs.Workspace.DefinedModules
import DesignAtlas.Proofs.Workspace.Epochs

/-!
# Queries

A query names a module, and behind an `@` the file that defines it. The names of modules are
identifiers, so the first `@` of a query is the one behind the name, whatever the file is called.
The files of a directory have different names, so the name and the file are those of one module.

* `Asks`: what a query asks for.
* `findModule_eq_ok_iff`, `findModule_eq_error_iff`: a query finds the first module that fits, or
  none fits.
* `IsQueryable`: what makes queries find the module that they mean.
* `isQueryable_ofEntries`: the modules of an analyzed directory can be queried.
* `findModule_after`: queries to a project whose analysis is finished.
-/

namespace DesignAtlas

/-- A module has the name that is asked for and, if a file is asked for, comes from that file. -/
def Module.Fits (m : Module) (name : String) (file : Option String) : Prop :=
  m.name = name ∧ ∀ f ∈ file, f = m.file

instance (m : Module) (name : String) (file : Option String) : Decidable (m.Fits name file) :=
  inferInstanceAs (Decidable (_ ∧ _))

/-! ### What a query asks for -/

namespace Project

/-- A query asks for a name, and for a file if it holds an `@`. The name ends at the first one. -/
def Asks (query name : String) (file : Option String) : Prop :=
  '@' ∉ name.toList ∧ query = file.elim name fun f => name ++ "@" ++ f

variable {query name : String} {file : Option String}

/-- Every query asks for something. -/
theorem exists_asks (query : String) : ∃ name file, Asks query name file := by
  have hsplit := List.takeWhile_append_dropWhile (p := (· != '@')) (l := query.toList)
  have hname : '@' ∉ query.toList.takeWhile (· != '@') := fun h => by
    simpa using List.mem_takeWhile_imp h
  cases hdrop : query.toList.dropWhile (· != '@') with
  | nil =>
    rw [hdrop, List.append_nil] at hsplit
    exact ⟨query, none, hsplit ▸ hname, rfl⟩
  | cons c file =>
    have hc : c = '@' := by
      have hhead := List.head?_dropWhile_not (· != '@') query.toList
      simpa [hdrop] using hhead
    subst hc
    refine ⟨String.ofList (query.toList.takeWhile (· != '@')), some (String.ofList file), ?_, ?_⟩
    · rwa [String.toList_ofList]
    · rw [hdrop] at hsplit
      rw [← String.toList_inj, Option.elim_some]
      simpa using hsplit.symm

/-- A query is cut into what it asks for. -/
theorem splitQuery_of_asks (h : Asks query name file) : splitQuery query = (name, file) := by
  obtain ⟨hname, rfl⟩ := h
  have hall : ∀ c ∈ name.toList, (c != '@') = true := by
    intro c hc
    rw [bne_iff_ne]
    rintro rfl
    exact hname hc
  cases file with
  | none =>
    have hdrop : name.toList.dropWhile (· != '@') = [] := List.dropWhile_eq_nil_iff.2 hall
    simp only [splitQuery, Option.elim_none, hdrop]
  | some f =>
    have htext : (name ++ "@" ++ f).toList = name.toList ++ '@' :: f.toList := by simp
    -- the `@` behind the name is the first one, whatever the file holds
    have hdrop : (name ++ "@" ++ f).toList.dropWhile (· != '@') = '@' :: f.toList := by
      rw [htext, List.dropWhile_append_of_pos hall]
      rfl
    have htake : (name ++ "@" ++ f).toList.takeWhile (· != '@') = name.toList := by
      rw [htext, List.takeWhile_append_of_pos hall]
      simp
    simp only [splitQuery, Option.elim_some, hdrop, htake, String.ofList_toList]

end Project

/-! ### What a query finds -/

theorem Registry.find?_eq_none_iff {r : Registry} {name : String} {file : Option String} :
    r.find? name file = none ↔ ∀ m ∈ r.modules, ¬m.Fits name file := by
  rw [find?, List.head?_eq_none_iff, List.eq_nil_iff_forall_not_mem]
  simp only [mem_idsWhere, Bool.and_eq_true, beq_iff_eq, Option.all_eq_true]
  constructor
  · intro h m hm hfits
    obtain ⟨id, hid⟩ := List.mem_iff_getElem?.1 hm
    exact h id ⟨m, hid, hfits⟩
  · rintro h id ⟨m, hm, hfits⟩
    exact h m (List.mem_of_getElem? hm) hfits

namespace Project

variable {p : Project} {analysis : Analysis} {query name : String} {file : Option String}

/-- A query to a project that is done is answered by the search in its registry. -/
theorem findModule_of_done (hdone : p.progress = .done analysis) (hasks : Asks query name file) :
    p.findModule query =
      (p.registry.find? name file).elim (.error (.moduleNotFound query)) .ok := by
  simp only [findModule, hdone, splitQuery_of_asks hasks, registry_of_done hdone]
  cases analysis.registry.find? name file <;> rfl

/-- A query finds the first module that fits. -/
theorem findModule_eq_ok_iff (hdone : p.progress = .done analysis) (hasks : Asks query name file)
    {id : ModuleId} : p.findModule query = .ok id ↔
      IsLeast {id | ∃ m, p.registry.get? id = some m ∧ m.Fits name file} id := by
  rw [findModule_of_done hdone hasks]
  refine Iff.trans ?_ Registry.find?_eq_some_iff_isLeast
  cases p.registry.find? name file <;> simp

/-- A query finds nothing if no module fits. -/
theorem findModule_eq_error_iff (hdone : p.progress = .done analysis)
    (hasks : Asks query name file) : p.findModule query = .error (.moduleNotFound query) ↔
      ∀ m ∈ p.registry.modules, ¬m.Fits name file := by
  rw [findModule_of_done hdone hasks, ← Registry.find?_eq_none_iff]
  cases p.registry.find? name file <;> simp

end Project

/-! ### Modules that can be queried -/

/-- Queries find the modules that they mean. -/
structure Registry.IsQueryable (r : Registry) : Prop where
  /-- No name holds the character that separates names from files. -/
  named : ∀ m ∈ r.modules, '@' ∉ m.name.toList
  /-- A name and a file are those of one module at most. -/
  distinct : ∀ id id' m m', r.get? id = some m → r.get? id' = some m' → m.name = m'.name →
    m.file = m'.file → id = id'
  /-- With increasing ids the names of the files do not decrease. -/
  ordered : ∀ id id' m m', id ≤ id' → r.get? id = some m → r.get? id' = some m' →
    m.file ≤ m'.file

namespace Analysis

variable {storage : Storage} {schedule : Schedule} {root : Path} {entries : List Entry}

theorem at_notMem_of_isIdentifier {name : List Char} (h : Source.IsIdentifier name) :
    '@' ∉ name := fun hat => absurd (h.2 '@' hat) (by decide)

/-- The modules of an analyzed directory can be queried. -/
theorem isQueryable_ofEntries (hentries : IsListing root entries) :
    (ofEntries storage schedule root entries).registry.IsQueryable := by
  have hmodules : (ofEntries storage schedule root entries).registry.modules = _ :=
    modules_ofEntries hentries.sources.pairwise_not_same
  have hsorted : (Listing.sources entries).Pairwise fun e e' => e.name ≤ e'.name :=
    hentries.sources.sorted.imp fun hlt => String.not_lt.1 (String.lt_asymm hlt)
  have hmem : ∀ m ∈ (ofEntries storage schedule root entries).registry.modules,
      '@' ∉ m.name.toList ∧ m.path = root.join m.file := by
    intro m hm
    obtain ⟨source, hsource, bytes, -, d, hd, rfl⟩ := exists_definition_of_mem_modules hm
    exact ⟨at_notMem_of_isIdentifier (Source.isIdentifier_of_mem_definitions hd),
      hentries.sources.below source hsource⟩
  refine ⟨fun m hm => (hmem m hm).1, fun id id' m m' hm hm' hname hfile => ?_,
    fun id id' m m' hle hm hm' => ?_⟩
  · -- the path is told by the file, so the modules have the same key
    have hpath : m.path = m'.path := by
      rw [(hmem m (List.mem_of_getElem? hm)).2, (hmem m' (List.mem_of_getElem? hm')).2, hfile]
    have hkey : m.key = m'.key := by rw [Module.key, Module.key, hname, hpath]
    exact Registry.eq_of_key_eq (Registry.nodup_key_foldl_register _) hm hm' hkey
  · rw [Registry.get?, hmodules] at hm hm'
    obtain ⟨hid, rfl⟩ := List.getElem?_eq_some_iff.1 hm
    obtain ⟨hid', rfl⟩ := List.getElem?_eq_some_iff.1 hm'
    rcases Nat.eq_or_lt_of_le hle with rfl | hlt
    · exact String.le_refl _
    · exact List.pairwise_iff_getElem.1 (pairwise_file_modules hsorted) id id' hid hid' hlt

end Analysis

namespace Project

variable {root : Path} {requests : List Request} {analysis : Analysis}

/-- The modules of a project that is done can be queried. -/
theorem isQueryable_after
    (hstorages : ∀ storage schedule, Request.analyze storage schedule ∈ requests →
      storage.IsFaithfulAt root)
    (hdone : ((ofRoot root).after requests).progress = .done analysis) :
    ((ofRoot root).after requests).registry.IsQueryable := by
  obtain ⟨storage, schedule, entries, buckets, hrequest, hlist, hafter⟩ :=
    exists_after_of_done hdone
  rw [hafter]
  exact Analysis.isQueryable_ofEntries (hstorages storage schedule hrequest entries hlist)

section Queryable

variable {p : Project} {id : ModuleId} {m : Module}

/-- A module is found by its name and its file. -/
theorem findModule_name_file (hdone : p.progress = .done analysis)
    (hqueryable : p.registry.IsQueryable) (hm : p.registry.get? id = some m) :
    p.findModule (m.name ++ "@" ++ m.file) = .ok id := by
  have hasks : Asks (m.name ++ "@" ++ m.file) m.name (some m.file) :=
    ⟨hqueryable.named m (List.mem_of_getElem? hm), rfl⟩
  rw [findModule_eq_ok_iff hdone hasks]
  refine ⟨⟨m, hm, rfl, by simp⟩, ?_⟩
  rintro id' ⟨m', hm', hname, hfile⟩
  exact le_of_eq (hqueryable.distinct id id' m m' hm hm' hname.symm (hfile m.file rfl))

/-- A name finds the first module with that name. Its file is the first one that defines it. -/
theorem exists_findModule_name (hdone : p.progress = .done analysis)
    (hqueryable : p.registry.IsQueryable) (hm : p.registry.get? id = some m) :
    ∃ first n, p.findModule m.name = .ok first ∧ p.registry.get? first = some n ∧
      n.name = m.name ∧ ∀ id' m', p.registry.get? id' = some m' → m'.name = m.name →
        first ≤ id' ∧ Text.Utf8.encode n.file ≤ Text.Utf8.encode m'.file := by
  have hasks : Asks m.name m.name none := ⟨hqueryable.named m (List.mem_of_getElem? hm), rfl⟩
  cases hfind : p.registry.find? m.name none with
  | none =>
    -- the module itself fits
    exact absurd ⟨rfl, nofun⟩ (Registry.find?_eq_none_iff.1 hfind m (List.mem_of_getElem? hm))
  | some first =>
    have hfound : p.findModule m.name = .ok first := by
      rw [findModule_of_done hdone hasks, hfind, Option.elim_some]
    obtain ⟨⟨n, hn, hname, -⟩, hleast⟩ := (findModule_eq_ok_iff hdone hasks).1 hfound
    refine ⟨first, n, hfound, hn, hname, fun id' m' hm' hname' => ?_⟩
    have hle : first ≤ id' := hleast ⟨m', hm', hname', nofun⟩
    exact ⟨hle, Text.Utf8.encode_le_encode_iff.2 (hqueryable.ordered first id' n m' hle hn hm')⟩

end Queryable

/-- In a project whose analysis is finished, a module's name and file behind an `@` find exactly
that module. The name alone finds the first module with that name, and no file whose name comes
earlier in the order of bytes defines another one. Every query asks for a name, and for a file if
it holds an `@`, and it finds nothing if and only if no module fits. -/
theorem findModule_after
    (hstorages : ∀ storage schedule, Request.analyze storage schedule ∈ requests →
      storage.IsFaithfulAt root)
    (hdone : ((ofRoot root).after requests).progress = .done analysis) :
    let p := (ofRoot root).after requests
    (∀ id m, p.registry.get? id = some m →
      p.findModule (m.name ++ "@" ++ m.file) = .ok id ∧
        ∃ first n, p.findModule m.name = .ok first ∧ p.registry.get? first = some n ∧
          n.name = m.name ∧ ∀ id' m', p.registry.get? id' = some m' → m'.name = m.name →
            first ≤ id' ∧ Text.Utf8.encode n.file ≤ Text.Utf8.encode m'.file) ∧
      (∀ query, ∃ name file, Asks query name file) ∧
      ∀ query name file, Asks query name file →
        (p.findModule query = .error (.moduleNotFound query) ↔
          ∀ m ∈ p.registry.modules, ¬m.Fits name file) := by
  have hqueryable := isQueryable_after hstorages hdone
  exact ⟨fun id m hm => ⟨findModule_name_file hdone hqueryable hm,
      exists_findModule_name hdone hqueryable hm⟩,
    exists_asks, fun query name file hasks => findModule_eq_error_iff hdone hasks⟩

/-- A directory with two files that define one name. The name of the second file holds an `@`. -/
def atSigns : Storage where
  list := fun _ => .ok [⟨"a.v", ⟨"p/a.v"⟩, false⟩, ⟨"a@b.v", ⟨"p/a@b.v"⟩, false⟩]
  read := fun path =>
    if path.text = "p/a.v" then .ok (Text.Utf8.encode "module m;endmodule")
    else .ok (Text.Utf8.encode "module n;endmodule\nmodule m;endmodule")
  isFile := fun _ => true

theorem isFaithfulAt_atSigns : atSigns.IsFaithfulAt ⟨"p"⟩ := by
  rintro entries ⟨⟩
  exact { sorted := by decide +kernel
          named := by decide +kernel
          below := by decide +kernel }

/-- The file's name is what stands behind the first `@`, so the rest of it alone names no file. -/
theorem findModule_after_atSigns :
    let p := (ofRoot ⟨"p"⟩).after [.analyze atSigns .backwards]
    p.findModule "m@a@b.v" = .ok 2 ∧ p.findModule "m" = .ok 0 ∧
      p.findModule "m@b.v" = .error (.moduleNotFound "m@b.v") := by
  intro p
  have hmodules : p.registry.modules = [⟨"m", "a.v", ⟨"p/a.v"⟩, 0, ""⟩,
      ⟨"n", "a@b.v", ⟨"p/a@b.v"⟩, 0, ""⟩, ⟨"m", "a@b.v", ⟨"p/a@b.v"⟩, 1, ""⟩] := by
    decide +kernel
  obtain ⟨hfound, -, hnotFound⟩ :=
    @findModule_after ⟨"p"⟩ [.analyze atSigns .backwards] _
      (fun storage schedule h => by cases List.mem_singleton.1 h; exact isFaithfulAt_atSigns) rfl
  have hm : p.registry.get? 2 = some ⟨"m", "a@b.v", ⟨"p/a@b.v"⟩, 1, ""⟩ := by
    rw [Registry.get?, hmodules]; rfl
  obtain ⟨hnamed, first, n, hfirst, hn, -, hleast⟩ := hfound 2 _ hm
  refine ⟨hnamed, ?_, ?_⟩
  · have hzero : p.registry.get? 0 = some ⟨"m", "a.v", ⟨"p/a.v"⟩, 0, ""⟩ := by
      rw [Registry.get?, hmodules]; rfl
    rw [hfirst, Nat.le_zero.1 (hleast 0 _ hzero rfl).1]
  · refine (hnotFound "m@b.v" "m" (some "b.v") ⟨by decide, by decide⟩).2 ?_
    rw [hmodules]
    decide

end Project

end DesignAtlas
