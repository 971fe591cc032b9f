/-!
# Totals

* `total` is the sum of numbers.
-/

namespace DesignAtlas.Number

/-- The sum of numbers. -/
def total (ns : List Nat) : Nat :=
  ns.foldr (· + ·) 0

@[simp]
theorem total_nil : total [] = 0 := rfl

@[simp]
theorem total_cons (n : Nat) (rest : List Nat) : total (n :: rest) = n + total rest := rfl

/-- Two lists one behind the other have the totals of both. -/
@[simp]
theorem total_append (first second : List Nat) :
    total (first ++ second) = total first + total second := by
  induction first with
  | nil => simp
  | cons n rest ih => simp [ih, Nat.add_assoc]

/-- Lists joined into one have the total of their lengths. -/
theorem length_flatMap {α β : Type} (f : α → List β) (l : List α) :
    (l.flatMap f).length = total (l.map fun a => (f a).length) := by
  induction l with
  | nil => rfl
  | cons a rest ih => rw [List.flatMap_cons, List.length_append, ih, List.map_cons, total_cons]

end DesignAtlas.Number
