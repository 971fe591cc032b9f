import DesignAtlas.Proofs.Json.Tokens

/-!
# Reading written values

Arrays and objects are written alike: items between brackets, with commas between them and perhaps
a line for each. An item is read back from in front of the comma or the bracket behind it, so a
whole value is read back by induction on the values inside it.

* `Value.toNode`: what a value is read as.
* `Value.toNode_injective`: nothing is lost in it.
* `takes_bracketed`: items between brackets, for arrays and objects alike.
* `read?_write`: a written value is read as what it was written for, in both layouts.
* `write_injective`: so different values have different texts.
* `le_toNat_of_mem_writeValue`: the compact text has no controls, so it is one line.
-/

namespace DesignAtlas.Json

open Text Reader

/-! ### Lists that agree -/

/-- Two lists agree in one thing if they agree in another, if their items do. -/
theorem map_eq_map_iff_of_forall {α β γ δ : Type} {f : α → γ} {f' : β → γ} {g : α → δ}
    {g' : β → δ} {items : List α} :
    ∀ {others : List β}, (∀ a ∈ items, ∀ b, f a = f' b ↔ g a = g' b) →
      (items.map f = others.map f' ↔ items.map g = others.map g') := by
  induction items with
  | nil =>
    rintro (_ | ⟨b, others⟩) -
    · exact iff_of_true rfl rfl
    · exact iff_of_false (List.cons_ne_nil _ _).symm (List.cons_ne_nil _ _).symm
  | cons a items ih =>
    rintro (_ | ⟨b, others⟩) hagree
    · exact iff_of_false (List.cons_ne_nil _ _) (List.cons_ne_nil _ _)
    · obtain ⟨ha, hitems⟩ := List.forall_mem_cons.1 hagree
      simp only [List.map_cons, List.cons.injEq, ha b, ih hitems]

/-- Lists with the same image are equal, if no two of their items have the same image. -/
theorem eq_of_map_eq {α β : Type} {f : α → β} {items others : List α}
    (hinj : ∀ a ∈ items, ∀ b, f a = f b → a = b) (heq : items.map f = others.map f) :
    items = others := by
  have hids : items.map id = others.map id :=
    (map_eq_map_iff_of_forall fun a ha b => ⟨hinj a ha b, congrArg f⟩).1 heq
  rwa [List.map_id, List.map_id] at hids

/-! ### Values as they are read -/

namespace Value

mutual

/-- What a value is read as. -/
def toNode : Value → Node
  | .null => .null
  | .number n => .number (.ofNat n)
  | .text s => .text s
  | .list items => .list (toNodes items)
  | .object fields => .object (fieldsToNodes fields)

/-- What the items of an array are read as. -/
def toNodes : List Value → List Node
  | [] => []
  | item :: items => item.toNode :: toNodes items

/-- What the fields of an object are read as. -/
def fieldsToNodes : List (String × Value) → List (String × Node)
  | [] => []
  | (name, value) :: fields => (name, value.toNode) :: fieldsToNodes fields

end

theorem toNodes_eq_map (items : List Value) : toNodes items = items.map toNode := by
  induction items with
  | nil => rw [toNodes, List.map_nil]
  | cons item items ih => rw [toNodes, ih, List.map_cons]

theorem fieldsToNodes_eq_map (fields : List (String × Value)) :
    fieldsToNodes fields = fields.map fun field => (field.1, field.2.toNode) := by
  induction fields with
  | nil => rw [fieldsToNodes, List.map_nil]
  | cons field fields ih => rw [fieldsToNodes, ih, List.map_cons]

/-- What holds of a value whenever it holds of the values inside it, holds of every value. -/
@[elab_as_elim]
theorem induction {motive : Value → Prop} (null : motive .null)
    (number : ∀ n, motive (.number n)) (text : ∀ s, motive (.text s))
    (list : ∀ items, (∀ item ∈ items, motive item) → motive (.list items))
    (object : ∀ fields, (∀ field ∈ fields, motive field.2) → motive (.object fields))
    (value : Value) : motive value := by
  -- of a list of values, and of a list of fields, it holds if it holds of every member
  refine @Value.rec motive (fun items => ∀ item ∈ items, motive item)
    (fun fields => ∀ field ∈ fields, motive field.2) (fun field => motive field.2)
    null number text list object ?noItems ?items ?noFields ?fields ?field value
  case noItems => exact List.forall_mem_nil _
  case items => exact fun _ _ hitem hitems => List.forall_mem_cons.2 ⟨hitem, hitems⟩
  case noFields => exact List.forall_mem_nil _
  case fields => exact fun _ _ hfield hfields => List.forall_mem_cons.2 ⟨hfield, hfields⟩
  case field => exact fun _ _ hvalue => hvalue

/-- Values that are read as the same are the same. -/
theorem toNode_injective : Function.Injective toNode := by
  intro v
  induction v using Value.induction with
  | null => intro w heq; cases w <;> simp_all [toNode]
  | number n => intro w heq; cases w <;> simp_all [toNode, Numeral.ofNat]
  | text s => intro w heq; cases w <;> simp_all [toNode]
  | list items ih =>
    intro w heq
    cases w with
    | list others =>
      -- the items are read one by one
      rw [toNode, toNode, toNodes_eq_map, toNodes_eq_map] at heq
      rw [eq_of_map_eq ih (Node.list.inj heq)]
    | _ => simp [toNode] at heq
  | object fields ih =>
    intro w heq
    cases w with
    | object others =>
      rw [toNode, toNode, fieldsToNodes_eq_map, fieldsToNodes_eq_map] at heq
      refine congrArg object (eq_of_map_eq (fun field hfield other hsame => ?_)
        (Node.object.inj heq))
      obtain ⟨hname, hvalue⟩ := Prod.mk.inj hsame
      exact Prod.ext hname (ih field hfield hvalue)
    | _ => simp [toNode] at heq

end Value

/-! ### Items between brackets -/

section Listed

variable {ι : Type} {layout : Layout} {level : Nat} {opening closing c : Char}
  {write : ι → List Char} {items : List ι} {i : ι} {rest : List Char}

/-- An item behind the comma that separates it from the item in front. -/
def behindComma (layout : Layout) (level : Nat) (write : ι → List Char) (item : ι) : List Char :=
  ',' :: (layout.lineBreak level ++ write item)

/-- Items between brackets, with commas between them. -/
def writeListed (layout : Layout) (level : Nat) (opening closing : Char) (write : ι → List Char) :
    List ι → List Char
  | [] => [opening, closing]
  | item :: items =>
    opening :: (layout.lineBreak (level + 1) ++ write item ++
      items.flatMap (behindComma layout (level + 1) write) ++ layout.lineBreak level ++ [closing])

theorem isBlank_of_mem_lineBreak (hc : c ∈ layout.lineBreak level) : isBlank c = true := by
  cases layout with
  | compact => exact absurd hc List.not_mem_nil
  | indented =>
    rcases List.mem_cons.1 hc with rfl | hc
    · decide
    · rw [List.eq_of_mem_replicate hc]
      decide

/-- A character that closes an array or an object and belongs to nothing in front of it. -/
structure IsClosing (c : Char) : Prop where
  /-- It is no blank. -/
  not_blank : isBlank c = false
  /-- It is no comma. -/
  ne_comma : c ≠ ','
  /-- It does not carry a number on. -/
  not_numeral : isNumeralChar c = false

theorem endsNumeral_lineBreak_cons (hclosing : IsClosing closing) :
    EndsNumeral (layout.lineBreak level ++ closing :: rest) := by
  intro c hc
  cases layout with
  | compact =>
    cases hc
    exact hclosing.not_numeral
  | indented =>
    cases hc
    decide

theorem endsNumeral_behindComma (item : ι) (rest : List Char) :
    EndsNumeral (behindComma layout level write item ++ rest) := by
  intro c hc
  cases hc
  decide

/-- What stands between brackets is an item, or it separates or encloses the items. -/
theorem mem_writeListed_compact (hc : c ∈ writeListed .compact level opening closing write items) :
    c = opening ∨ c = closing ∨ c = ',' ∨ ∃ i ∈ items, c ∈ write i := by
  cases items with
  | nil =>
    simp only [writeListed, List.mem_cons, List.not_mem_nil, or_false] at hc
    exact hc.imp_right .inl
  | cons i items =>
    simp only [writeListed, Layout.lineBreak, List.nil_append, List.append_nil, List.mem_cons,
      List.mem_append, List.mem_flatMap, behindComma, List.not_mem_nil, or_false] at hc
    rcases hc with hopening | (hi | ⟨j, hj, hcomma | hwrite⟩) | hclosing
    · exact .inl hopening
    · exact .inr (.inr (.inr ⟨i, List.mem_cons_self, hi⟩))
    · exact .inr (.inr (.inl hcomma))
    · exact .inr (.inr (.inr ⟨j, List.mem_cons_of_mem _ hj, hwrite⟩))
    · exact .inr (.inl hclosing)

/-- An item is shorter than what it stands in. -/
theorem length_lt_writeListed (hi : i ∈ items) :
    (write i).length < (writeListed layout level opening closing write items).length := by
  cases items with
  | nil => exact absurd hi List.not_mem_nil
  | cons j items =>
    simp only [writeListed, List.length_cons, List.length_append]
    rcases List.mem_cons.1 hi with rfl | hi
    · omega
    · have hsublist : (behindComma layout (level + 1) write i).Sublist
          (items.flatMap (behindComma layout (level + 1) write)) :=
        List.sublist_flatten_of_mem (List.mem_map_of_mem hi)
      have hle := hsublist.length_le
      simp only [behindComma, List.length_cons, List.length_append] at hle
      omega

/-! ### Reading items between brackets -/

variable {α : Type} {r : Reader α} {a : α} {value : ι → α} {written : List Char}

/-- Blanks in front of what is read are skipped. -/
theorem takes_spaced {blanks : List Char} (hblanks : ∀ c ∈ blanks, isBlank c = true)
    (hfirst : ∀ c ∈ (written ++ rest).head?, isBlank c = false) (hr : Takes r written a rest) :
    Takes (spaced r) (blanks ++ written) a rest :=
  (takes_span hblanks hfirst).seqRight hr

theorem run_spaced_of_none {blanks text : List Char} (hblanks : ∀ c ∈ blanks, isBlank c = true)
    (hfirst : ∀ c ∈ text.head?, isBlank c = false) (hr : r.run text = none) :
    (spaced r).run (blanks ++ text) = none := by
  rw [spaced, seqRight_eq_bind]
  exact (takes_span hblanks hfirst).run_bind_of_none hr

theorem takes_mark {blanks : List Char} (hblanks : ∀ c ∈ blanks, isBlank c = true)
    (hc : isBlank c = false) (rest : List Char) : Takes (mark c) (blanks ++ [c]) c rest := by
  refine takes_spaced hblanks (fun d hd => ?_) (takes_exactly c rest)
  cases hd
  exact hc

theorem takes_mark_comma (rest : List Char) : Takes (mark ',') [','] ',' rest :=
  takes_mark (List.forall_mem_nil _) (by decide) rest

/-- In front of a closing bracket there is no further comma. -/
theorem run_mark_comma_lineBreak (hclosing : IsClosing closing) :
    (mark ',').run (layout.lineBreak level ++ closing :: rest) = none := by
  refine run_spaced_of_none (fun _ => isBlank_of_mem_lineBreak) (fun c hc => ?_)
    (run_exactly_of_ne fun c hc => ?_)
  · cases hc
    exact hclosing.not_blank
  · cases hc
    exact hclosing.ne_comma

/-- Written items are read back, if every item is read back from in front of what may stand behind
it: a comma, a line end or the closing bracket. -/
theorem takes_bracketed (hclosing : IsClosing closing)
    (hnone : ∀ rest, r.run (closing :: rest) = none)
    (hitem : ∀ i ∈ items, ∀ behind, EndsNumeral behind →
      Takes r (layout.lineBreak (level + 1) ++ write i) (value i) behind) (rest : List Char) :
    Takes (bracketed opening closing r) (writeListed layout level opening closing write items)
      (items.map value) rest := by
  cases items with
  | nil =>
    have hitems : Takes (separated1 r (mark ',') <|> pure []) [] [] ([closing] ++ rest) :=
      takes_orElse_of_none (run_bind_of_none (hnone rest)) (takes_pure [] _)
    have hmark : Takes (mark closing) [closing] closing rest :=
      takes_mark (List.forall_mem_nil _) hclosing.not_blank rest
    exact ((takes_exactly opening _).seqRight hitems).seqLeft hmark
  | cons i items =>
    obtain ⟨hi, hitems⟩ := List.forall_mem_cons.1 hitem
    have hmark : Takes (mark closing) (layout.lineBreak level ++ [closing]) closing rest :=
      takes_mark (fun _ => isBlank_of_mem_lineBreak) hclosing.not_blank rest
    have hends : EndsNumeral (layout.lineBreak level ++ closing :: rest) :=
      endsNumeral_lineBreak_cons hclosing
    -- behind every item stands a comma, a line end or the closing bracket
    have hothers : Takes (many (mark ',' *> r))
        (items.flatMap (behindComma layout (level + 1) write)) (items.map value)
        (layout.lineBreak level ++ closing :: rest) :=
      takes_many EndsNumeral items
        (fun j hj behind hbehind => (takes_mark_comma _).seqRight (hitems j hj behind hbehind))
        (fun _ _ => List.cons_ne_nil _ _) (fun j _ => endsNumeral_behindComma j) hends
        (run_seqRight_of_none (run_mark_comma_lineBreak hclosing))
    have hbehind : EndsNumeral (items.flatMap (behindComma layout (level + 1) write) ++
        (layout.lineBreak level ++ closing :: rest)) :=
      mayFollow_flatMap (fun j _ => endsNumeral_behindComma j) hends
    have hall : Takes (separated1 r (mark ',') <|> pure [])
        (layout.lineBreak (level + 1) ++ write i ++
          items.flatMap (behindComma layout (level + 1) write))
        ((i :: items).map value) (layout.lineBreak level ++ [closing] ++ rest) := by
      rw [List.append_assoc (layout.lineBreak level), List.singleton_append]
      exact Takes.orElse (Takes.bind (hi _ hbehind) hothers.bind_pure)
    have hlisted := ((takes_exactly opening _).seqRight hall).seqLeft hmark
    rw [← List.append_assoc, List.append_assoc [opening]] at hlisted
    exact hlisted

end Listed

/-! ### Values -/

section Written

variable {layout : Layout} {level depth : Nat} {rest : List Char}

/-- The text of a field. -/
def writeField (layout : Layout) (level : Nat) (field : String × Value) : List Char :=
  quoted field.1 ++ layout.colon ++ writeValue layout level field.2

theorem writeItems_eq_flatMap (layout : Layout) (level : Nat) (items : List Value) :
    writeItems layout level items =
      items.flatMap (behindComma layout level (writeValue layout level)) := by
  induction items with
  | nil => rw [writeItems, List.flatMap_nil]
  | cons item items ih =>
    rw [writeItems, ih, List.flatMap_cons, behindComma, List.cons_append]

theorem writeFields_eq_flatMap (layout : Layout) (level : Nat) (fields : List (String × Value)) :
    writeFields layout level fields =
      fields.flatMap (behindComma layout level (writeField layout level)) := by
  induction fields with
  | nil => rw [writeFields, List.flatMap_nil]
  | cons field fields ih =>
    rw [writeFields, ih, List.flatMap_cons, behindComma, writeField, List.cons_append]
    simp only [List.append_assoc]

theorem writeValue_list (layout : Layout) (level : Nat) (items : List Value) :
    writeValue layout level (.list items) =
      writeListed layout level '[' ']' (writeValue layout (level + 1)) items := by
  cases items with
  | nil => rw [writeValue, writeListed]
  | cons item items => rw [writeValue, writeListed, writeItems_eq_flatMap]

theorem writeValue_object (layout : Layout) (level : Nat) (fields : List (String × Value)) :
    writeValue layout level (.object fields) =
      writeListed layout level '\x7b' '\x7d' (writeField layout (level + 1)) fields := by
  cases fields with
  | nil => rw [writeValue, writeListed]
  | cons field fields =>
    rw [writeValue, writeListed, writeFields_eq_flatMap, writeField]
    simp only [List.append_assoc]

theorem isBlank_of_isDigit {c : Char} (hc : c.isDigit = true) : isBlank c = false := by
  rw [isBlank, Bool.or_eq_false_iff, Bool.or_eq_false_iff, Bool.or_eq_false_iff]
  refine ⟨⟨⟨?_, ?_⟩, ?_⟩, ?_⟩ <;>
    exact beq_false_of_ne (by rintro rfl; exact absurd hc (by decide))

theorem exists_writeListed {ι : Type} (opening closing : Char) (write : ι → List Char)
    (items : List ι) :
    ∃ others, writeListed layout level opening closing write items = opening :: others := by
  cases items with
  | nil => exact ⟨_, rfl⟩
  | cons i items => exact ⟨_, rfl⟩

/-- A written value starts with a character that is no blank. -/
theorem exists_cons_writeValue (layout : Layout) (level : Nat) (value : Value) :
    ∃ first others, writeValue layout level value = first :: others ∧ isBlank first = false := by
  cases value with
  | null => exact ⟨'n', _, by rw [writeValue], by decide⟩
  | number n =>
    obtain ⟨first, others, hdigits, hfirst⟩ := exists_toDigits n
    exact ⟨first, others, by rw [writeValue, hdigits], isBlank_of_isDigit hfirst⟩
  | text s => exact ⟨'"', _, by rw [writeValue, quoted], by decide⟩
  | list items =>
    obtain ⟨others, hothers⟩ := exists_writeListed '[' ']' (writeValue layout (level + 1)) items
    exact ⟨'[', others, by rw [writeValue_list, hothers], by decide⟩
  | object fields =>
    obtain ⟨others, hothers⟩ :=
      exists_writeListed '\x7b' '\x7d' (writeField layout (level + 1)) fields
    exact ⟨'\x7b', others, by rw [writeValue_object, hothers], by decide⟩

/-! ### Reading values -/

/-- The values that an array or an object is made of. -/
def Value.inside : Value → List Value
  | .list items => items
  | .object fields => fields.map Prod.snd
  | _ => []

/-- A value is longer than what is inside it. -/
theorem length_lt_of_mem_inside {v inner : Value} (hinner : inner ∈ v.inside) :
    (writeValue layout (level + 1) inner).length < (writeValue layout level v).length := by
  cases v with
  | list items =>
    rw [writeValue_list]
    exact length_lt_writeListed hinner
  | object fields =>
    obtain ⟨field, hfield, rfl⟩ := List.mem_map.1 hinner
    have hlt : (writeField layout (level + 1) field).length <
        (writeListed layout level '\x7b' '\x7d' (writeField layout (level + 1)) fields).length :=
      length_lt_writeListed hfield
    rw [writeValue_object]
    simp only [writeField, List.length_append] at hlt ⊢
    omega
  | _ => exact absurd hinner List.not_mem_nil

/-- The values inside a value are read by a reader. -/
def ReadsInside (layout : Layout) (level : Nat) (r : Reader Node) (v : Value) : Prop :=
  ∀ inner ∈ v.inside, ∀ behind, EndsNumeral behind →
    Takes r (writeValue layout level inner) inner.toNode behind

theorem takes_spaced_value {r : Reader Node} {v : Value} {blanks : List Char}
    (hblanks : ∀ c ∈ blanks, isBlank c = true)
    (hr : Takes r (writeValue layout level v) v.toNode rest) :
    Takes (spaced r) (blanks ++ writeValue layout level v) v.toNode rest := by
  obtain ⟨first, others, hwritten, hfirst⟩ := exists_cons_writeValue layout level v
  refine takes_spaced hblanks (fun c hc => ?_) hr
  rw [hwritten] at hc
  cases hc
  exact hfirst

theorem takes_valueFrom_digit {r : Reader Node} {n : Nat} {first : Char}
    (hfirst : first.isDigit = true) (hrest : EndsNumeral rest) :
    Takes (valueFrom r first) (Nat.toDigits 10 n) (.number (.ofNat n)) rest := by
  unfold valueFrom
  split <;> first | exact absurd hfirst (by decide) | exact (takes_numeral n hrest).map

/-- Behind the colon of a field there may be a blank. -/
theorem exists_colon (layout : Layout) :
    ∃ blanks, layout.colon = ':' :: blanks ∧ ∀ c ∈ blanks, isBlank c = true := by
  cases layout with
  | compact => exact ⟨[], rfl, List.forall_mem_nil _⟩
  | indented =>
    refine ⟨[' '], rfl, fun c hc => ?_⟩
    rw [List.mem_singleton.1 hc]
    decide

theorem takes_field {r : Reader Node} {f : String × Value} {blanks : List Char}
    (hblanks : ∀ c ∈ blanks, isBlank c = true)
    (hr : Takes r (writeValue layout level f.2) f.2.toNode rest) :
    Takes (field r) (blanks ++ writeField layout level f) (f.1, f.2.toNode) rest := by
  obtain ⟨behindColon, hcolon, hbehindColon⟩ := exists_colon layout
  have hname : ∀ behind, Takes (spaced string) (blanks ++ quoted f.1) f.1 behind := by
    intro behind
    refine takes_spaced hblanks (fun c hc => ?_) (takes_string f.1 behind)
    cases hc
    decide
  have hmark : ∀ behind, Takes (mark ':') [':'] ':' behind :=
    takes_mark (List.forall_mem_nil _) (by decide)
  have hvalue := takes_spaced_value hbehindColon hr
  have hwritten : blanks ++ writeField layout level f =
      blanks ++ quoted f.1 ++ ([':'] ++ (behindColon ++ writeValue layout level f.2)) := by
    rw [writeField, hcolon]
    simp only [List.append_assoc, List.cons_append, List.nil_append]
  rw [hwritten]
  exact Takes.bind (hname _) (Takes.bind (hmark _) hvalue.bind_pure)

/-- In front of a closing bracket there is no field. -/
theorem run_field_brace {r : Reader Node} (rest : List Char) :
    (field r).run ('\x7d' :: rest) = none := by
  have hquote : (exactly '"').run ('\x7d' :: rest) = none :=
    run_exactly_of_ne fun c hc => by cases hc; decide
  have hstring : string.run ('\x7d' :: rest) = none :=
    run_bind_of_none (run_seqLeft_of_none (run_seqRight_of_none hquote))
  exact run_bind_of_none
    (run_spaced_of_none (List.forall_mem_nil _) (fun c hc => by cases hc; decide) hstring)

/-- A value is read by its first character, if the values inside it are read. -/
theorem exists_takes_valueFrom {r : Reader Node} {v : Value}
    (hinside : ReadsInside layout (level + 1) r v) (hbracket : ∀ rest, r.run (']' :: rest) = none)
    (hrest : EndsNumeral rest) :
    ∃ first others, writeValue layout level v = first :: others ∧
      Takes (valueFrom r first) (writeValue layout level v) v.toNode rest := by
  cases v with
  | null =>
    refine ⟨'n', _, by rw [writeValue], ?_⟩
    rw [writeValue, Value.toNode]
    exact (takes_word _ _).seqRight (takes_pure Node.null rest)
  | number n =>
    obtain ⟨first, others, hdigits, hfirst⟩ := exists_toDigits n
    refine ⟨first, others, by rw [writeValue, hdigits], ?_⟩
    rw [writeValue, Value.toNode]
    exact takes_valueFrom_digit hfirst hrest
  | text s =>
    refine ⟨'"', _, by rw [writeValue, quoted], ?_⟩
    rw [writeValue, Value.toNode]
    exact (takes_string s rest).map
  | list items =>
    obtain ⟨others, hothers⟩ := exists_writeListed '[' ']' (writeValue layout (level + 1)) items
    refine ⟨'[', others, by rw [writeValue_list, hothers], ?_⟩
    rw [writeValue_list, Value.toNode, Value.toNodes_eq_map]
    refine (takes_bracketed ⟨by decide, by decide, by decide⟩ (fun behind => ?_)
      (fun item hitem behind hbehind => ?_) rest).map
    · exact run_spaced_of_none (List.forall_mem_nil _) (by simp [isBlank]) (hbracket behind)
    · exact takes_spaced_value (fun _ => isBlank_of_mem_lineBreak)
        (hinside item hitem behind hbehind)
  | object fields =>
    obtain ⟨others, hothers⟩ :=
      exists_writeListed '\x7b' '\x7d' (writeField layout (level + 1)) fields
    refine ⟨'\x7b', others, by rw [writeValue_object, hothers], ?_⟩
    rw [writeValue_object, Value.toNode, Value.fieldsToNodes_eq_map]
    refine (takes_bracketed ⟨by decide, by decide, by decide⟩ (fun behind => ?_)
      (fun f hf behind hbehind => ?_) rest).map
    · exact run_field_brace behind
    · exact takes_field (fun _ => isBlank_of_mem_lineBreak)
        (hinside f.2 (List.mem_map_of_mem hf) behind hbehind)

/-- In front of a closing bracket there is no value. -/
theorem run_value_bracket (depth : Nat) (rest : List Char) :
    (value depth).run (']' :: rest) = none := by
  have hne : ∀ {c}, c ≠ ']' → (exactly c).run (']' :: rest) = none := fun hc =>
    run_exactly_of_ne fun d hd => by cases hd; exact hc.symm
  have hwhole : whole.run (']' :: rest) = none := by
    rw [whole, run_orElse_of_none (run_seqRight_of_none (hne (by decide)))]
    refine run_bind_of_none (run_satisfying_of_not fun d hd => ?_)
    cases hd
    decide
  cases depth with
  | zero => rfl
  | succ depth =>
    show (Node.number <$> numeral).run (']' :: rest) = none
    exact run_map_of_none <| (takes_optional_of_none (hne (by decide))).run_bind_of_none <|
      run_bind_of_none hwhole

/-- A written value is read by a reader that may go as deep as its text is long. -/
theorem takes_value (layout : Layout) (depth : Nat) :
    ∀ v level rest, (writeValue layout level v).length ≤ depth → EndsNumeral rest →
      Takes (value depth) (writeValue layout level v) v.toNode rest := by
  -- by induction on the depth, as each value inside has a shorter text
  induction depth with
  | zero =>
    intro v level rest hdepth
    obtain ⟨first, others, hwritten, -⟩ := exists_cons_writeValue layout level v
    rw [hwritten] at hdepth
    exact absurd hdepth (Nat.not_succ_le_zero _)
  | succ depth ih =>
    intro v level rest hdepth hrest
    have hinside : ReadsInside layout (level + 1) (value depth) v :=
      fun inner hinner behind hbehind => ih inner (level + 1) behind
        (Nat.le_of_lt_succ (Nat.lt_of_lt_of_le (length_lt_of_mem_inside hinner) hdepth)) hbehind
    obtain ⟨first, others, hwritten, htakes⟩ :=
      exists_takes_valueFrom hinside (run_value_bracket depth) hrest
    rw [hwritten] at htakes ⊢
    exact htakes

/-- A written value is read as what it was written for, in both layouts. -/
theorem read?_write (layout : Layout) (v : Value) : read? (v.write layout) = some v.toNode := by
  have hvalue : Takes (value (writeValue layout 0 v).length) (writeValue layout 0 v) v.toNode [] :=
    takes_value layout _ v 0 [] (Nat.le_refl _) (fun c hc => absurd hc (Option.not_mem_none c))
  have hspaced := takes_spaced_value (List.forall_mem_nil _) hvalue
  have hblanks : Takes (span isBlank) [] [] [] := rfl
  have hall := hspaced.seqLeft hblanks
  rw [List.nil_append, List.append_nil] at hall
  -- the length of the text is the bound on the depth
  rw [read?, Value.write, String.toList_ofList]
  exact readAll_of_takes hall

/-- Different values have different texts. -/
theorem write_injective (layout : Layout) : Function.Injective (Value.write layout) := by
  intro v w heq
  have hread : some v.toNode = some w.toNode := by
    rw [← read?_write layout, ← read?_write layout, heq]
  exact Value.toNode_injective (Option.some.inj hread)

/-! ### The compact text -/

theorem le_toNat_of_mem_quoted {s : String} {c : Char} (hc : c ∈ quoted s) : 0x20 ≤ c.toNat := by
  simp only [quoted, List.mem_cons, List.mem_append, List.mem_flatMap, List.not_mem_nil,
    or_false] at hc
  rcases hc with rfl | ⟨d, -, hd⟩ | rfl
  · decide
  · exact le_toNat_of_mem_escapeChar hd
  · decide

/-- There are no controls in a compact text. -/
theorem le_toNat_of_mem_writeValue (v : Value) :
    ∀ level, ∀ c ∈ writeValue .compact level v, 0x20 ≤ c.toNat := by
  induction v using Value.induction with
  | null =>
    intro level c hc
    have hletters : (['n', 'u', 'l', 'l'].all fun c => 0x20 ≤ c.toNat) = true := by decide
    rw [writeValue] at hc
    exact of_decide_eq_true (List.all_eq_true.1 hletters c hc)
  | number n =>
    intro level c hc
    rw [writeValue] at hc
    have hdigit : c.isDigit = true :=
      Nat.isDigit_of_mem_toDigits (b := 10) (n := n) (by decide) (by decide) hc
    exact Nat.le_trans (by decide) (Char.isDigit_iff_toNat.1 hdigit).1
  | text s =>
    intro level c hc
    rw [writeValue] at hc
    exact le_toNat_of_mem_quoted hc
  | list items ih =>
    intro level c hc
    rw [writeValue_list] at hc
    rcases mem_writeListed_compact hc with rfl | rfl | rfl | ⟨item, hitem, hc⟩
    · decide
    · decide
    · decide
    · exact ih item hitem _ c hc
  | object fields ih =>
    intro level c hc
    rw [writeValue_object] at hc
    rcases mem_writeListed_compact hc with rfl | rfl | rfl | ⟨f, hf, hc⟩
    · decide
    · decide
    · decide
    · simp only [writeField, Layout.colon, List.mem_append, List.mem_singleton] at hc
      rcases hc with (hname | rfl) | hvalue
      · exact le_toNat_of_mem_quoted hname
      · decide
      · exact ih f hf _ c hvalue

end Written

end DesignAtlas.Json
