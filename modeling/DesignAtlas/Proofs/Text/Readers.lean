import DesignAtlas.Text.Reader

/-!
# What readers take

A written text is read back from in front of any text that may stand behind it, so what is known of
the parts of a reader is put together along the combinators. A reader that fails makes room for the
next alternative, and `many` ends where its reader fails.

* `Takes`: a reader takes exactly a written text from in front of a rest.
* `takes_many`: what is written item by item is read item by item.
-/

namespace DesignAtlas.Text.Reader

variable {α β : Type} {r : Reader α} {s : Reader β} {a : α} {b : β} {c : Char}
  {holds : Char → Bool} {written further rest text : List Char}

/-- A reader takes exactly a written text from in front of a rest and makes a value of it. -/
def Takes (r : Reader α) (written : List Char) (a : α) (rest : List Char) : Prop :=
  r.run (written ++ rest) = some (a, rest)

/-! ### One reader behind another -/

theorem takes_pure (a : α) (rest : List Char) : Takes (pure a) [] a rest := rfl

/-- A reader that takes a text hands on what is behind it. -/
theorem Takes.bind {f : α → Reader β} (hr : Takes r written a (further ++ rest))
    (hf : Takes (f a) further b rest) : Takes (r >>= f) (written ++ further) b rest := by
  have hr : r.run (written ++ (further ++ rest)) = some (a, further ++ rest) := hr
  rw [Takes, StateT.run_bind, List.append_assoc, hr]
  exact hf

theorem Takes.map {f : α → β} (hr : Takes r written a rest) :
    Takes (f <$> r) written (f a) rest := by
  have hr : r.run (written ++ rest) = some (a, rest) := hr
  rw [Takes, StateT.run_map, hr]
  rfl

/-- A reader may decide what to make of a text when it has taken it. -/
theorem Takes.bind_nil {f : α → Reader β} (hr : Takes r written a rest)
    (hf : Takes (f a) [] b rest) : Takes (r >>= f) written b rest := by
  rw [← List.append_nil written]
  exact Takes.bind hr hf

theorem Takes.bind_pure {f : α → β} (hr : Takes r written a rest) :
    Takes (r >>= fun a => pure (f a)) written (f a) rest :=
  hr.bind_nil (takes_pure (f a) rest)

theorem Takes.seqRight (hr : Takes r written a (further ++ rest)) (hs : Takes s further b rest) :
    Takes (r *> s) (written ++ further) b rest := by
  rw [seqRight_eq_bind]
  exact hr.bind hs

theorem Takes.seqLeft (hr : Takes r written a (further ++ rest)) (hs : Takes s further b rest) :
    Takes (r <* s) (written ++ further) a rest := by
  rw [seqLeft_eq_bind]
  exact hr.bind hs.bind_pure

theorem run_bind_of_none {f : α → Reader β} (hr : r.run text = none) :
    (r >>= f).run text = none := by
  rw [StateT.run_bind, hr]
  rfl

/-- A reader also fails behind one that takes a text. -/
theorem Takes.run_bind_of_none {f : α → Reader β} (hr : Takes r written a rest)
    (hf : (f a).run rest = none) : (r >>= f).run (written ++ rest) = none := by
  have hr : r.run (written ++ rest) = some (a, rest) := hr
  rw [StateT.run_bind, hr]
  exact hf

theorem run_map_of_none {f : α → β} (hr : r.run text = none) : (f <$> r).run text = none := by
  rw [StateT.run_map, hr]
  rfl

theorem run_seqLeft_of_none (hr : r.run text = none) : (r <* s).run text = none := by
  rw [seqLeft_eq_bind]
  exact run_bind_of_none hr

theorem run_seqRight_of_none (hr : r.run text = none) : (r *> s).run text = none := by
  rw [seqRight_eq_bind]
  exact run_bind_of_none hr

theorem readAll_of_takes (hr : Takes r written a []) : readAll r written = some a := by
  have hr : r.run written = some (a, []) := by
    rw [← List.append_nil written]
    exact hr
  rw [readAll, hr]

/-! ### Alternatives -/

theorem run_orElse_of_none {r' : Reader α} (hr : r.run text = none) :
    (r <|> r').run text = r'.run text := by
  show (r.run text <|> r'.run text) = _
  rw [hr]
  rfl

/-- The first alternative that takes a text is the one that counts. -/
theorem Takes.orElse {r' : Reader α} (hr : Takes r written a rest) :
    Takes (r <|> r') written a rest := by
  have hr : r.run (written ++ rest) = some (a, rest) := hr
  show (r.run (written ++ rest) <|> r'.run (written ++ rest)) = _
  rw [hr]
  rfl

theorem takes_orElse_of_none {r' : Reader α} (hr : r.run (written ++ rest) = none)
    (hr' : Takes r' written a rest) : Takes (r <|> r') written a rest :=
  (run_orElse_of_none hr).trans hr'

/-- What may be there and is not there takes nothing. -/
theorem takes_optional_of_none (hr : r.run rest = none) : Takes (optional r) [] none rest :=
  takes_orElse_of_none (run_map_of_none hr) (takes_pure none rest)

/-! ### Characters -/

theorem takes_satisfying (hc : holds c = true) (rest : List Char) :
    Takes (satisfying holds) [c] c rest :=
  if_pos hc

theorem run_satisfying_of_not (htext : ∀ c ∈ text.head?, holds c = false) :
    (satisfying holds).run text = none := by
  cases text with
  | nil => rfl
  | cons c text => exact if_neg (Bool.eq_false_iff.1 (htext c rfl))

theorem takes_exactly (c : Char) (rest : List Char) : Takes (exactly c) [c] c rest :=
  takes_satisfying (BEq.rfl) rest

theorem run_exactly_of_ne (htext : ∀ d ∈ text.head?, d ≠ c) : (exactly c).run text = none :=
  run_satisfying_of_not fun d hd => beq_false_of_ne (htext d hd)

theorem takes_word (wanted rest : List Char) : Takes (word wanted) wanted () rest := by
  have hstart : wanted.isPrefixOf (wanted ++ rest) = true :=
    List.isPrefixOf_iff_prefix.2 (List.prefix_append wanted rest)
  refine (if_pos hstart).trans ?_
  rw [List.drop_left]

/-- A span ends in front of the first character that does not satisfy its condition. -/
theorem takes_span (hwritten : ∀ c ∈ written, holds c = true)
    (hrest : ∀ c ∈ rest.head?, holds c = false) : Takes (span holds) written written rest := by
  have hstop : rest.takeWhile holds = [] ∧ rest.dropWhile holds = rest := by
    cases rest with
    | nil => exact ⟨rfl, rfl⟩
    | cons c rest =>
      have hc : ¬holds c = true := Bool.eq_false_iff.1 (hrest c rfl)
      exact ⟨List.takeWhile_cons_of_neg hc, List.dropWhile_cons_of_neg hc⟩
  show some ((written ++ rest).takeWhile holds, (written ++ rest).dropWhile holds) = _
  rw [List.takeWhile_append_of_pos hwritten, List.dropWhile_append_of_pos hwritten, hstop.1,
    hstop.2, List.append_nil]

/-! ### Repetition -/

theorem takes_many_nil (hrest : r.run rest = none) : Takes (many r) [] [] rest := by
  show some (repeated r rest) = _
  rw [repeated, hrest]

theorem Takes.many_cons {others : List α} (hr : Takes r written a (further ++ rest))
    (hwritten : written ≠ []) (hmany : Takes (many r) further others rest) :
    Takes (many r) (written ++ further) (a :: others) rest := by
  have hr : r.run (written ++ (further ++ rest)) = some (a, further ++ rest) := hr
  have hmany : repeated r (further ++ rest) = (others, rest) := Option.some.inj hmany
  -- something was taken, so the repetition goes on
  have hshorter : (further ++ rest).length < (written ++ (further ++ rest)).length := by
    have hpos := List.length_pos_iff.2 hwritten
    simp only [List.length_append]
    omega
  show some (repeated r (written ++ further ++ rest)) = _
  rw [List.append_assoc, repeated, hr]
  simp only [hshorter, hmany, if_true]

/-- If a rest may follow, and so may every item, then items with the rest behind them may. -/
theorem mayFollow_flatMap {ι : Type} {write : ι → List Char} {MayFollow : List Char → Prop}
    {items : List ι} (hfollow : ∀ i ∈ items, ∀ behind, MayFollow (write i ++ behind))
    (hrest : MayFollow rest) : MayFollow (items.flatMap write ++ rest) := by
  cases items with
  | nil => exact hrest
  | cons i items =>
    rw [List.flatMap_cons, List.append_assoc]
    exact hfollow i List.mem_cons_self _

/-- Items that are written one behind the other are read one by one, up to a rest that the reader
of an item refuses. What may stand behind an item is another item or that rest. -/
theorem takes_many {ι : Type} {write : ι → List Char} {value : ι → α}
    (MayFollow : List Char → Prop) (items : List ι)
    (hitem : ∀ i ∈ items, ∀ behind, MayFollow behind → Takes r (write i) (value i) behind)
    (hwritten : ∀ i ∈ items, write i ≠ [])
    (hfollow : ∀ i ∈ items, ∀ behind, MayFollow (write i ++ behind))
    (hrest : MayFollow rest) (hstop : r.run rest = none) :
    Takes (many r) (items.flatMap write) (items.map value) rest := by
  induction items with
  | nil => exact takes_many_nil hstop
  | cons i items ih =>
    obtain ⟨hi, hitems⟩ := List.forall_mem_cons.1 hitem
    obtain ⟨hwi, hwrittens⟩ := List.forall_mem_cons.1 hwritten
    obtain ⟨-, hfollows⟩ := List.forall_mem_cons.1 hfollow
    have hbehind := mayFollow_flatMap hfollows hrest
    exact (hi _ hbehind).many_cons hwi (ih hitems hwrittens hfollows)

end DesignAtlas.Text.Reader
