import DesignAtlas.Proofs.Source.ScanSafety
import DesignAtlas.Proofs.Source.WordOffsets
import Mathlib.Order.Bounds.Defs

/-!
# How deep blocks are nested

The search for the end of a block goes over the bytes of a text and counts the blocks that are open.
Its counter is the number of parentheses that open less the number of those that close, over all
that was read.

* `closing?_cons`: one byte of the search. `closing?_of_staysOpen`: a stretch that ends no block.
* `exists_end_or_staysOpen`: where the search ends.
* `endsBlock_balancedAt?`: the end of the block that opens at an offset.
-/

namespace DesignAtlas.Source.Scan

open Text Offset
open Shell.ByteText (charOf)

/-- How many parentheses open in a stretch of bytes. -/
def opened (stretch : List UInt8) : Nat :=
  stretch.countP fun b => charOf b = '('

/-- How many parentheses close in a stretch of bytes. -/
def closed (stretch : List UInt8) : Nat :=
  stretch.countP fun b => charOf b = ')'

/-- The bytes of a text between two offsets. -/
def bytesBetween (text : List Char) (start stop : Nat) : List UInt8 :=
  ((bytes text).drop start).take (stop - start)

/-- Where `depth` blocks are open in front of a stretch, a block is open behind it. -/
def StaysOpen (depth : Nat) (stretch : List UInt8) : Prop :=
  closed stretch < depth + opened stretch

/-- Where the block that opens at an offset ends, if it does. -/
structure EndsBlock (text : List Char) (opening : Nat) (found : Option Nat) : Prop where
  /-- It ends at the least offset behind `opening` up to which as many parentheses close as open. -/
  least : ∀ stop, found = some stop ↔
    IsLeast {offset | opening < offset ∧ offset ≤ byteLength text ∧
      closed (bytesBetween text opening offset) = opened (bytesBetween text opening offset)} stop
  /-- Up to its end the parentheses are nested: none closes more than was opened before. -/
  nested : ∀ stop ∈ found, ∀ offset, opening ≤ offset → offset ≤ stop →
    closed (bytesBetween text opening offset) ≤ opened (bytesBetween text opening offset)
  /-- It does not end exactly if from `opening` on more parentheses open than close. -/
  none_iff : found = none ↔ ∀ offset, opening < offset → offset ≤ byteLength text →
    closed (bytesBetween text opening offset) < opened (bytesBetween text opening offset)
  /-- The search for the end gets to each offset in front of it. It has counted the parentheses that
  opened less those that closed, and that is one at least. -/
  counter : ∀ offset, opening < offset → offset ≤ byteLength text →
    (∀ stop ∈ found, offset < stop) → ∃ depth, 1 ≤ depth ∧
      closed (bytesBetween text opening offset) + depth =
        opened (bytesBetween text opening offset) ∧
      balanced? text opening = closing? depth offset ((bytes text).drop offset)

/-! ### Counting -/

theorem opened_cons (b : UInt8) (stretch : List UInt8) :
    opened (b :: stretch) = opened [b] + opened stretch := by
  rw [← List.singleton_append, opened, List.countP_append]
  rfl

theorem closed_cons (b : UInt8) (stretch : List UInt8) :
    closed (b :: stretch) = closed [b] + closed stretch := by
  rw [← List.singleton_append, closed, List.countP_append]
  rfl

theorem opened_of_open {b : UInt8} (h : charOf b = '(') : opened [b] = 1 ∧ closed [b] = 0 := by
  simp [opened, closed, h]

theorem opened_of_close {b : UInt8} (h : charOf b = ')') : opened [b] = 0 ∧ closed [b] = 1 := by
  simp [opened, closed, h]

theorem opened_of_other {b : UInt8} (hopen : charOf b ≠ '(') (hclose : charOf b ≠ ')') :
    opened [b] = 0 ∧ closed [b] = 0 := by
  simp [opened, closed, hopen, hclose]

/-! ### The search -/

/-- One byte of the search: the block that is looked for ends, or the search goes on. -/
theorem closing?_cons {depth offset : Nat} {b : UInt8} {rest : List UInt8}
    (h : 0 < depth + opened [b]) :
    closing? depth offset (b :: rest) =
      if closed [b] = depth + opened [b] then .ok (some (offset + 1))
      else closing? (depth + opened [b] - closed [b]) (offset + 1) rest := by
  rw [closing?]
  by_cases hopen : charOf b = '('
  · obtain ⟨hone, hzero⟩ := opened_of_open hopen
    rw [if_pos hopen, hone, hzero, if_neg (by omega), Nat.sub_zero]
  rw [if_neg hopen]
  by_cases hclose : charOf b = ')'
  · obtain ⟨hzero, hone⟩ := opened_of_close hclose
    rw [hzero] at h
    obtain ⟨outer, rfl⟩ : ∃ outer, depth = outer + 1 := ⟨depth - 1, by omega⟩
    -- the counter is one at least, so it can be lowered
    have hpred : pred (outer + 1) = .ok outer := rfl
    rw [if_pos hclose, hpred, ok_bind, hzero, hone]
    by_cases hlast : outer = 0
    · rw [if_pos hlast, if_pos (by omega)]
      rfl
    · rw [if_neg hlast, if_neg (by omega)]
      rfl
  · obtain ⟨hzero, hnone⟩ := opened_of_other hopen hclose
    rw [hzero] at h
    rw [if_neg hclose, hzero, hnone, if_neg (by omega)]
    rfl

theorem closed_singleton_le (b : UInt8) : closed [b] ≤ 1 :=
  List.countP_le_length

variable {depth offset : Nat} {b : UInt8} {rest stretch : List UInt8}

theorem staysOpen_nil : StaysOpen depth [] ↔ 0 < depth := Iff.rfl

/-- A block is open behind a stretch if one is open behind what follows its first byte. -/
theorem staysOpen_cons (h : closed [b] ≤ depth + opened [b]) :
    StaysOpen depth (b :: stretch) ↔ StaysOpen (depth + opened [b] - closed [b]) stretch := by
  rw [StaysOpen, StaysOpen, opened_cons, closed_cons]
  omega

theorem staysOpen_prefixes_nil (h : 0 < depth) : ∀ part, part <+: [] → StaysOpen depth part := by
  intro part hpart
  rw [List.prefix_nil.1 hpart]
  exact staysOpen_nil.2 h

/-- A block is open all along a stretch if one is in front and all along what follows its first
byte. -/
theorem staysOpen_prefixes_cons (h : 0 < depth) (hle : closed [b] ≤ depth + opened [b]) :
    (∀ part, part <+: b :: stretch → StaysOpen depth part) ↔
      ∀ part, part <+: stretch → StaysOpen (depth + opened [b] - closed [b]) part := by
  constructor
  · intro hopen part hpart
    exact (staysOpen_cons hle).1 (hopen (b :: part) (List.cons_prefix_cons.2 ⟨rfl, hpart⟩))
  · intro hopen part hpart
    rcases List.prefix_cons_iff.1 hpart with rfl | ⟨tail, rfl, htail⟩
    · exact staysOpen_nil.2 h
    · exact (staysOpen_cons hle).2 (hopen tail htail)

/-- The search gets over a stretch that ends no block, and its counter tells how many are open. -/
theorem closing?_of_staysOpen (h : ∀ front, front <+: stretch → StaysOpen depth front) :
    closing? depth offset (stretch ++ rest) =
      closing? (depth + opened stretch - closed stretch) (offset + stretch.length) rest := by
  -- each byte moves a parenthesis from the stretch to the counter
  induction stretch generalizing depth offset with
  | nil => rfl
  | cons b stretch ih =>
    have hdepth := staysOpen_nil.1 (h [] List.nil_prefix)
    have hfirst : closed [b] < depth + opened [b] := h [b] (List.prefix_append [b] stretch)
    have hgoes := (staysOpen_prefixes_cons hdepth hfirst.le).1 h
    have hlast : closed stretch < depth + opened [b] - closed [b] + opened stretch :=
      hgoes stretch List.prefix_rfl
    have hcounter : depth + opened [b] - closed [b] + opened stretch - closed stretch =
        depth + (opened [b] + opened stretch) - (closed [b] + closed stretch) := by
      omega
    have hoffset : offset + 1 + stretch.length = offset + (b :: stretch).length := by
      rw [List.length_cons]
      omega
    rw [List.cons_append, closing?_cons (by omega), if_neg hfirst.ne, ih hgoes, hcounter, hoffset,
      opened_cons b stretch, closed_cons b stretch]

/-- The search ends behind the first byte with which no block is open any more, or there is no such
byte and it finds nothing. -/
theorem exists_end_or_staysOpen (bs : List UInt8) (offset : Nat) (h : 0 < depth) :
    (∃ front b rest, bs = front ++ b :: rest ∧ (∀ part, part <+: front → StaysOpen depth part) ∧
      closed (front ++ [b]) = depth + opened (front ++ [b]) ∧
        closing? depth offset bs = .ok (some (offset + (front ++ [b]).length))) ∨
      (∀ part, part <+: bs → StaysOpen depth part) ∧ closing? depth offset bs = .ok none := by
  induction bs generalizing depth offset with
  | nil => exact .inr ⟨staysOpen_prefixes_nil h, rfl⟩
  | cons b bs ih =>
    have hle := closed_singleton_le b
    rw [closing?_cons (by omega)]
    by_cases hend : closed [b] = depth + opened [b]
    · exact .inl ⟨[], b, bs, rfl, staysOpen_prefixes_nil h, hend, if_pos hend⟩
    -- behind the first byte the search goes on with another counter
    rw [if_neg hend]
    have hpos : 0 < depth + opened [b] - closed [b] := by omega
    rcases ih (offset + 1) hpos with
      ⟨front, x, rest, rfl, hopen, hclosed, hfound⟩ | ⟨hopen, hnone⟩
    · refine .inl ⟨b :: front, x, rest, rfl, (staysOpen_prefixes_cons h (by omega)).2 hopen, ?_, ?_⟩
      · rw [List.cons_append, opened_cons, closed_cons, hclosed]
        omega
      · rw [hfound, List.cons_append, List.length_cons]
        congr 2
        omega
    · exact .inr ⟨(staysOpen_prefixes_cons h (by omega)).2 hopen, hnone⟩

/-! ### The end of a block -/

section Block

variable {text : List Char} {opening : Nat} {found : Option Nat}

/-- What the bytes from an offset on start with stands between this offset and its own end. -/
theorem bytesBetween_of_drop {start : Nat} {front behind : List UInt8}
    (h : (bytes text).drop start = front ++ behind) :
    bytesBetween text start (start + front.length) = front := by
  rw [bytesBetween, h, Nat.add_sub_cancel_left, List.take_left]

/-- Of what stands from an opening parenthesis on, this parenthesis counts as one that opens. -/
theorem counts_of_drop {b : UInt8} {stretch behind : List UInt8} (hb : charOf b = '(')
    (hdrop : (bytes text).drop opening = b :: (stretch ++ behind)) :
    opened (bytesBetween text opening (opening + 1 + stretch.length)) = 1 + opened stretch ∧
      closed (bytesBetween text opening (opening + 1 + stretch.length)) = closed stretch := by
  have hstop : opening + 1 + stretch.length = opening + (b :: stretch).length := by
    rw [List.length_cons]
    omega
  obtain ⟨hone, hzero⟩ := opened_of_open hb
  rw [hstop, bytesBetween_of_drop hdrop, opened_cons, closed_cons, hone, hzero, Nat.zero_add]
  exact ⟨rfl, rfl⟩

/-- Behind the parenthesis that opens a block the search goes on with one open block. -/
theorem exists_balanced?_eq (h : OccursAt ['('] text opening) :
    ∃ b rest, (bytes text).drop opening = b :: rest ∧ charOf b = '(' ∧
      balanced? text opening = closing? 1 (opening + 1) rest ∧
        balanced? text opening = .ok (balancedAt? text opening) := by
  obtain ⟨before, behind, rfl, rfl⟩ := (occursAt_iff (List.cons_ne_nil '(' [])).1 h
  have hsuffix : '(' :: behind <:+ before ++ (['('] ++ behind) := List.suffix_append before _
  have hoffset : ofRest (before ++ (['('] ++ behind)) ('(' :: behind) = byteLength before :=
    ofRest_append before ('(' :: behind)
  obtain ⟨b, hbytes, hb⟩ := bytes_ascii_cons behind (c := '(') (by decide)
  have hdrop := drop_bytes_ofRest hsuffix
  have hholds := holdsAt_ofRest hsuffix (c := '(') (by decide)
  rw [hoffset] at hdrop hholds
  rw [hbytes] at hdrop
  refine ⟨b, bytes behind, hdrop, hb, ?_, ?_⟩
  · rw [balanced?, hholds, ok_bind, if_pos (by rfl), hdrop, closing?, if_pos hb]
  · have hsafe := (isSafeAt_offset ⟨before.reverse, '(' :: behind⟩).block
    simp only [Cursor.text, Cursor.offset, List.reverse_reverse, byteLength_reverse] at hsafe
    exact (hsafe hholds).1

/-- The search gets over a stretch behind `opening` that does not end the block. At each offset
its counter is the number of parentheses that opened less that of those that closed. -/
theorem exists_counter {b : UInt8} {stretch behind : List UInt8}
    (hdrop : (bytes text).drop opening = b :: (stretch ++ behind)) (hb : charOf b = '(')
    (hopen : ∀ part, part <+: stretch → StaysOpen 1 part) {offset : Nat} (hlt : opening < offset)
    (hle : offset ≤ opening + 1 + stretch.length) :
    ∃ depth, 1 ≤ depth ∧
      closed (bytesBetween text opening offset) + depth =
        opened (bytesBetween text opening offset) ∧
      closing? 1 (opening + 1) (stretch ++ behind) =
        closing? depth offset ((bytes text).drop offset) := by
  -- `front` is what was read behind `opening`
  obtain ⟨front, back, rfl, rfl⟩ : ∃ front back, stretch = front ++ back ∧
      offset = opening + 1 + front.length := by
    refine ⟨stretch.take (offset - opening - 1), stretch.drop (offset - opening - 1),
      (List.take_append_drop _ _).symm, ?_⟩
    rw [List.length_take, Nat.min_eq_left (by omega)]
    omega
  rw [List.append_assoc] at hdrop
  obtain ⟨hopened, hclosed⟩ := counts_of_drop hb hdrop
  have hstays : closed front < 1 + opened front := hopen front (List.prefix_append front back)
  have hbehind : (bytes text).drop (opening + 1 + front.length) = back ++ behind := by
    rw [← List.drop_drop, ← List.drop_drop, hdrop, List.drop_one, List.tail_cons, List.drop_left]
  have hgoes : ∀ part, part <+: front → StaysOpen 1 part := fun part hpart =>
    hopen part (hpart.trans (List.prefix_append front back))
  refine ⟨1 + opened front - closed front, by omega, by omega, ?_⟩
  rw [hbehind, List.append_assoc, closing?_of_staysOpen hgoes]

/-- The counts up to each offset tell where a block ends. -/
theorem endsBlock_of_counts
    (hcounter : ∀ offset, opening < offset → offset ≤ byteLength text →
      (∀ stop ∈ found, offset < stop) → ∃ depth, 1 ≤ depth ∧
        closed (bytesBetween text opening offset) + depth =
          opened (bytesBetween text opening offset) ∧
        balanced? text opening = closing? depth offset ((bytes text).drop offset))
    (hend : ∀ stop ∈ found, opening < stop ∧ stop ≤ byteLength text ∧
      closed (bytesBetween text opening stop) = opened (bytesBetween text opening stop)) :
    EndsBlock text opening found := by
  have hopens : ∀ offset, opening < offset → offset ≤ byteLength text →
      (∀ stop ∈ found, offset < stop) →
        closed (bytesBetween text opening offset) < opened (bytesBetween text opening offset) := by
    intro offset hlt hle hbefore
    obtain ⟨depth, hdepth, hcount, -⟩ := hcounter offset hlt hle hbefore
    omega
  constructor
  case counter => exact hcounter
  case least =>
    intro stop
    constructor
    · intro hfound
      refine ⟨hend stop hfound, fun offset hoffset => Nat.le_of_not_lt fun hlt => ?_⟩
      refine (hopens offset hoffset.1 hoffset.2.1 fun stop' hstop' => ?_).ne hoffset.2.2
      rw [hfound] at hstop'
      rwa [← Option.some_inj.1 hstop']
    · intro hleast
      -- without an end in front of `stop` a block would be open up to there
      have hex : ∃ stop' ∈ found, stop' ≤ stop := by
        by_contra hnone
        refine (hopens stop hleast.1.1 hleast.1.2.1 fun stop' hstop' => ?_).ne hleast.1.2.2
        exact Nat.lt_of_not_le fun hle => hnone ⟨stop', hstop', hle⟩
      obtain ⟨stop', hfound, hle⟩ := hex
      rw [hfound, Nat.le_antisymm hle (hleast.2 (hend stop' hfound))]
  case nested =>
    intro stop hstop offset hle hoffset
    obtain ⟨hlt, hbound, hequal⟩ := hend stop hstop
    rcases Nat.eq_or_lt_of_le hle with rfl | hbehind
    · rw [bytesBetween, Nat.sub_self]
      exact Nat.le_refl 0
    rcases Nat.eq_or_lt_of_le hoffset with rfl | hbefore
    · exact hequal.le
    · refine (hopens offset hbehind (hoffset.trans hbound) fun stop' hstop' => ?_).le
      rwa [Option.mem_unique hstop' hstop]
  case none_iff =>
    constructor
    · rintro rfl offset hlt hle
      exact hopens offset hlt hle nofun
    · intro hall
      refine Option.eq_none_iff_forall_ne_some.2 fun stop hstop => ?_
      obtain ⟨hlt, hbound, hequal⟩ := hend stop hstop
      exact (hall stop hlt hbound).ne hequal

/-- From the parenthesis that opens a block the search for its end goes on without a fault: its
counter is never lowered below zero. It finds the least offset up to which as many parentheses
close as open, and nothing if there is none. -/
theorem endsBlock_balancedAt? (text : List Char) (opening : Nat)
    (hopening : OccursAt ['('] text opening) :
    balanced? text opening = .ok (balancedAt? text opening) ∧
      EndsBlock text opening (balancedAt? text opening) := by
  obtain ⟨b, rest, hdrop, hb, hsearch, hsafe⟩ := exists_balanced?_eq hopening
  refine ⟨hsafe, ?_⟩
  have hlength : byteLength text = opening + 1 + rest.length := by
    have h := congrArg List.length hdrop
    rw [List.length_drop, length_bytes, List.length_cons] at h
    omega
  rw [hsearch] at hsafe
  -- behind the opening parenthesis one block is open
  rcases exists_end_or_staysOpen rest (opening + 1) Nat.one_pos with
    ⟨front, x, behind, rfl, hopen, hclosed, hfound⟩ | ⟨hopen, hnone⟩
  · rw [hfound] at hsafe
    rw [← Except.ok.inj hsafe]
    refine endsBlock_of_counts (fun offset hlt hle hbefore => ?_) ?_
    · rw [hsearch]
      refine exists_counter hdrop hb hopen hlt (Nat.le_of_lt_succ ?_)
      have hstop := hbefore _ rfl
      rw [List.length_append, List.length_singleton] at hstop
      omega
    · rintro _ ⟨rfl⟩
      rw [List.append_cons] at hdrop
      obtain ⟨hcount, hcount'⟩ := counts_of_drop hb hdrop
      refine ⟨by omega, ?_, by rw [hcount, hcount', hclosed]⟩
      simp only [hlength, List.length_append, List.length_cons, List.length_nil]
      omega
  · rw [hnone] at hsafe
    rw [← Except.ok.inj hsafe]
    refine endsBlock_of_counts (fun offset hlt hle _ => ?_) nofun
    rw [hsearch]
    rw [← List.append_nil rest] at hdrop ⊢
    exact exists_counter hdrop hb hopen hlt (hlength ▸ hle)

/-- Between letters of more than one byte the end is found where the parentheses are even. -/
theorem endsBlock_balancedAt?_nested :
    OccursAt ['('] "é(λ(x)μ) (".toList 2 ∧
      IsLeast {offset | 2 < offset ∧ offset ≤ byteLength "é(λ(x)μ) (".toList ∧
        closed (bytesBetween "é(λ(x)μ) (".toList 2 offset) =
          opened (bytesBetween "é(λ(x)μ) (".toList 2 offset)} 11 := by
  have hopening : OccursAt ['('] "é(λ(x)μ) (".toList 2 := by decide
  have hfound : balancedAt? "é(λ(x)μ) (".toList 2 = some 11 := by decide
  exact ⟨hopening, ((endsBlock_balancedAt? _ 2 hopening).2.least 11).1 hfound⟩

end Block

end DesignAtlas.Source.Scan
