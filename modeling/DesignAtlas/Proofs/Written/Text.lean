import DesignAtlas.Proofs.Source.Layout
import DesignAtlas.Storage.Basic
import Mathlib.Data.List.Infix

/-!
# Written designs

A design is a list of modules with their instances. A module is written as a header without ports,
one line for each instance, and `endmodule`; a source file holds the texts of some modules one
behind the other.

* `Module.text`, `File.text`: what is written.
* `free_body`: the body of a written module does not hold `endmodule`.
* `count_text`: the number of lines of a written module.
-/

namespace DesignAtlas.Written

open Text Source

/-- A name that a design may use: an identifier that does not hold `endmodule`. -/
structure Name where
  /-- The characters of the name. -/
  text : List Char
  identifier : IsIdentifier text
  free : ¬endKeyword <:+: text
  deriving DecidableEq

/-- The name as the registry holds it. -/
def Name.string (n : Name) : String :=
  String.ofList n.text

theorem Name.text_inj {m n : Name} : m.text = n.text ↔ m = n := by
  rw [Name.mk.injEq]

theorem Name.string_inj {m n : Name} : m.string = n.string ↔ m = n := by
  rw [string, string, String.ofList_inj, text_inj]

/-- An instance in a module: the module it is an instance of, its name, and its ports. -/
structure Instance where
  /-- The name of the module it is an instance of. -/
  child : Name
  /-- The name of the instance. -/
  label : Name
  /-- What its ports are connected to. -/
  ports : List Name

/-- A module of a design. -/
structure Module where
  /-- The name of the module. -/
  name : Name
  /-- The instances in the module, in the order they are written. -/
  instances : List Instance

/-- A source file with the modules written to it. -/
structure File where
  /-- The entry of the file in its directory. -/
  entry : Entry
  /-- The modules, in the order they are written. -/
  modules : List Module

/-! ### What is written -/

/-- Names with a comma and a blank between them. -/
def portsText : List Name → List Char
  | [] => []
  | [port] => port.text
  | port :: next :: ports => port.text ++ ',' :: ' ' :: portsText (next :: ports)

/-- The line of an instance: `  child label(port, port);`. -/
def Instance.text (i : Instance) : List Char :=
  ' ' :: ' ' :: (i.child.text ++ ' ' :: (i.label.text ++ '(' ::
    (portsText i.ports ++ [')', ';', '\n'])))

/-- Everything between the semicolon of the header and `endmodule`. -/
def Module.body (m : Module) : List Char :=
  '\n' :: m.instances.flatMap Instance.text

/-- The text of a module. -/
def Module.text (m : Module) : List Char :=
  openKeyword ++ ' ' :: (m.name.text ++ ';' :: (m.body ++ (endKeyword ++ ['\n'])))

/-- The text of a source file. -/
def File.text (f : File) : List Char :=
  f.modules.flatMap Module.text

/-! ### The keyword that ends a module -/

/-- The keyword does not reach over a character of its own that is written. -/
theorem free_append_cons_iff {front back : List Char} {c : Char} (hc : c ∉ endKeyword) :
    ¬endKeyword <:+: front ++ c :: back ↔ ¬endKeyword <:+: front ∧ ¬endKeyword <:+: back := by
  rw [infix_append_cons_iff hc, not_or]

theorem free_cons_iff {back : List Char} {c : Char} (hc : c ∉ endKeyword) :
    ¬endKeyword <:+: c :: back ↔ ¬endKeyword <:+: back := by
  have hnil : ¬endKeyword <:+: ([] : List Char) := by decide
  rw [← List.nil_append (c :: back), free_append_cons_iff hc, and_iff_right hnil]

theorem free_portsText (ports : List Name) : ¬endKeyword <:+: portsText ports := by
  fun_induction portsText ports with
  | case1 => decide
  | case2 port => exact port.free
  | case3 port next ports ih =>
    rw [free_append_cons_iff (by decide), free_cons_iff (by decide)]
    exact ⟨port.free, ih⟩

/-- The keyword does not stand in the line of an instance. -/
theorem free_instance_append (i : Instance) {rest : List Char} (hrest : ¬endKeyword <:+: rest) :
    ¬endKeyword <:+: i.text ++ rest := by
  simp only [Instance.text, List.cons_append, List.append_assoc, List.nil_append]
  -- none of the characters between the names is one of the keyword
  rw [free_cons_iff (by decide), free_cons_iff (by decide), free_append_cons_iff (by decide),
    free_append_cons_iff (by decide), free_append_cons_iff (by decide), free_cons_iff (by decide),
    free_cons_iff (by decide)]
  exact ⟨i.child.free, i.label.free, free_portsText i.ports, hrest⟩

/-- The keyword does not stand in the body of a written module. -/
theorem free_body (m : Module) : ¬endKeyword <:+: m.body := by
  rw [Module.body, free_cons_iff (by decide)]
  induction m.instances with
  | nil => decide
  | cons i instances ih => exact free_instance_append i ih

/-! ### Lines -/

theorem Name.count_text (n : Name) : n.text.count '\n' = 0 := by
  refine List.count_eq_zero.2 fun h => ?_
  exact absurd (n.identifier.2 '\n' h) (by decide)

theorem count_portsText (ports : List Name) : (portsText ports).count '\n' = 0 := by
  fun_induction portsText ports with
  | case1 => rfl
  | case2 port => exact port.count_text
  | case3 port next ports ih => simp [ih, port.count_text]

theorem Instance.count_text (i : Instance) : i.text.count '\n' = 1 := by
  simp [text, Name.count_text, count_portsText]

/-- A written module takes two lines and one for every instance. -/
theorem Module.count_text (m : Module) : m.text.count '\n' = m.instances.length + 2 := by
  have hinstances : (m.instances.flatMap Instance.text).count '\n' = m.instances.length := by
    induction m.instances with
    | nil => rfl
    | cons i instances ih => simp [ih, Instance.count_text, Nat.add_comm]
  have hopen : openKeyword.count '\n' = 0 := by decide
  have hend : endKeyword.count '\n' = 0 := by decide
  simp [text, body, hinstances, hopen, hend, Name.count_text]

end DesignAtlas.Written
