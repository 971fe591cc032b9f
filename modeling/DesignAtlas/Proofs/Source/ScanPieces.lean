import DesignAtlas.Proofs.Source.ScanBytes
import DesignAtlas.Proofs.Text.Places

/-!
# Pieces of source text, read with checks

From the offset of a place the readers with checks find no fault, and they read what the readers of
source text do: the offset that they give is that of the text which is left behind the piece.

* `identifier?_ofRest`, `balanced?_ofRest`, `portList?_ofRest`: the pieces.
* `closing?_ofRest`: the number of open blocks is never less than one where a block is closed.
* `listEnd?_ofRest`: the search for the end of a list goes on up to the stop word and not past it.
* `occurrences_offset`: the search for a needle.
-/

namespace DesignAtlas.Source

open Text Offset
open Shell.ByteText (charOf charOf_of_mem charOf_of_ascii charOf_eq_iff)

namespace Scan

variable {text rest : List Char}

/-- Behind an ASCII character the offset is one more. -/
theorem ofRest_succ {holds : Char → Bool} (hascii : IsAscii holds) {c : Char} (hc : holds c = true)
    (h : c :: rest <:+ text) : ofRest text (c :: rest) + 1 = ofRest text rest := by
  have hadd := ofRest_add (show [c] ++ rest <:+ text from h)
  simpa [hascii.utf8Size hc] using hadd.symm

theorem ofRest_succ_of_lt {c : Char} (hc : c.toNat < 128) (h : c :: rest <:+ text) :
    ofRest text (c :: rest) + 1 = ofRest text rest :=
  ofRest_succ (isAscii_beq hc) (beq_self_eq_true c) h

theorem skipBlanks_ofRest (h : rest <:+ text) :
    skipBlanks text (ofRest text rest) = .ok (ofRest text (Text.skipBlanks rest)) := by
  rw [skipBlanks, check_ofRest h, ok_bind, skipWhile_ofRest isAscii_isBlank h]
  rfl

/-! ### Identifiers -/

/-- The start and the end of the identifier that the text from a place on starts with. -/
theorem identifier?_ofRest (h : rest <:+ text) :
    identifier? text (ofRest text rest) =
      .ok ((Source.identifier? rest).map fun found => (ofRest text rest, ofRest text found.2)) := by
  rw [identifier?, check_ofRest h, ok_bind]
  cases rest with
  | nil =>
    rw [if_neg (by simp [ofRest_nil])]
    rfl
  | cons c rest =>
    obtain ⟨b, behind, hbytes, hb⟩ := exists_bytes_cons c rest
    have hat : (bytes text)[ofRest text (c :: rest)]? = some b := by
      rw [getElem?_bytes_ofRest h, hbytes, List.head?_cons]
    have hbyte : byte text (ofRest text (c :: rest)) = .ok b := by
      rw [byte, hat]
      rfl
    rw [if_pos (List.getElem?_eq_some_iff.1 hat).1, hbyte, ok_bind,
      isAscii_isIdentifierStart.holds_charOf hb, Source.identifier?]
    by_cases hc : isIdentifierStart c = true
    · rw [if_pos hc, if_pos hc, ofRest_succ isAscii_isIdentifierStart hc h,
        skipWhile_ofRest isAscii_isIdentifierChar ((List.suffix_cons c rest).trans h)]
      rfl
    · rw [if_neg hc, if_neg hc]
      rfl

/-- Whether an identifier can start at a place is told by the byte before it. -/
theorem canStart_offset (c : Cursor) :
    canStart c.text c.offset = .ok (isBoundary c.previous?) := by
  obtain ⟨before, rest⟩ := c
  have hcheck : check (Cursor.text ⟨before, rest⟩) (byteLength before) = .ok () :=
    if_pos (isBoundary_offset ⟨before, rest⟩)
  rw [canStart, Cursor.offset, hcheck, ok_bind]
  cases before with
  | nil => rfl
  | cons c before =>
    obtain ⟨size, hsize⟩ : ∃ size, c.utf8Size = size + 1 :=
      ⟨c.utf8Size - 1, (Nat.sub_add_cancel (Char.utf8Size_pos c)).symm⟩
    have hlength : (String.utf8EncodeChar c).length = size + 1 := by
      rw [String.length_utf8EncodeChar, hsize]
    have hoffset : byteLength (c :: before) = byteLength before.reverse + size + 1 := by
      rw [byteLength_cons, byteLength_reverse, hsize]
      omega
    have hpred : pred (byteLength (c :: before)) = .ok (byteLength before.reverse + size) := by
      rw [hoffset]
      rfl
    -- the byte before the place is the last one of the character before it
    have hat : (bytes (Cursor.text ⟨c :: before, rest⟩))[byteLength before.reverse + size]? =
        some (String.utf8EncodeChar c)[size] := by
      have htext : Cursor.text ⟨c :: before, rest⟩ = before.reverse ++ c :: rest := by
        simp [Cursor.text]
      rw [htext, bytes_append, bytes_cons, ← length_bytes, List.getElem?_append_right (by omega),
        Nat.add_sub_cancel_left, List.getElem?_append_left (by omega), List.getElem?_eq_getElem]
    have hbyte : byte (Cursor.text ⟨c :: before, rest⟩) (byteLength before.reverse + size) =
        .ok (String.utf8EncodeChar c)[size] := by
      rw [byte, hat]
      rfl
    have hpos : byteLength (c :: before) ≠ 0 := by omega
    rw [if_neg hpos, hpred, ok_bind, hbyte, ok_bind,
      isAscii_isIdentifierChar.holds_charOf (List.getElem_mem _)]
    rfl

/-! ### Blocks -/

/-- Bytes that are no parentheses are passed over. -/
theorem closing?_append {front back : List UInt8} {depth offset : Nat}
    (h : ∀ b ∈ front, charOf b ≠ '(' ∧ charOf b ≠ ')') :
    closing? depth offset (front ++ back) = closing? depth (offset + front.length) back := by
  induction front generalizing offset with
  | nil => rfl
  | cons b front ih =>
    obtain ⟨hopen, hclose⟩ := h b (by simp)
    rw [List.cons_append, closing?, if_neg hopen, if_neg hclose, ih fun x hx => h x (by simp [hx]),
      List.length_cons]
    congr 1
    omega

theorem bytes_ascii_cons (rest : List Char) {c : Char} (hc : c.toNat < 128) :
    ∃ b, bytes (c :: rest) = b :: bytes rest ∧ charOf b = c := by
  obtain ⟨b, -, -, hb⟩ := exists_bytes_cons c rest
  have hchar := charOf_of_ascii hb hc
  have hone := (charOf_of_mem hb (by rwa [hchar])).2
  exact ⟨b, by rw [bytes_cons, hone]; rfl, hchar⟩

/-- With `outer` blocks to be closed before the one that is looked for, `outer + 1` are open, so a
parenthesis that closes one always finds one. -/
theorem closing?_ofRest {outer : Nat} (h : rest <:+ text) :
    closing? (outer + 1) (ofRest text rest) (bytes rest) =
      .ok ((Source.closing? outer rest).map (ofRest text)) := by
  fun_induction Source.closing? outer rest with
  | case1 => rfl
  | case2 outer rest ih =>
    obtain ⟨b, hbytes, hb⟩ := bytes_ascii_cons rest (c := '(') (by decide)
    rw [hbytes, closing?, if_pos hb, ofRest_succ_of_lt (by decide) h,
      ih ((List.suffix_cons _ _).trans h)]
  | case3 rest =>
    obtain ⟨b, hbytes, hb⟩ := bytes_ascii_cons rest (c := ')') (by decide)
    rw [hbytes, closing?, if_neg (by rw [hb]; decide), if_pos hb, ofRest_succ_of_lt (by decide) h]
    rfl
  | case4 outer rest ih =>
    -- one of the outer blocks is closed, and the one that is looked for stays open
    obtain ⟨b, hbytes, hb⟩ := bytes_ascii_cons rest (c := ')') (by decide)
    rw [hbytes, closing?, if_neg (by rw [hb]; decide), if_pos hb, ofRest_succ_of_lt (by decide) h,
      ← ih ((List.suffix_cons _ _).trans h)]
    rfl
  | case5 outer c rest hopen hclose hclose' ih =>
    -- no byte of another character is a parenthesis
    have hadd := ofRest_add (show [c] ++ rest <:+ text from h)
    rw [bytes_cons, closing?_append, String.length_utf8EncodeChar,
      ← ih ((List.suffix_cons _ _).trans h), hadd]
    · simp
    · intro b hb
      rw [Ne, Ne, charOf_eq_iff hb (by decide), charOf_eq_iff hb (by decide)]
      refine ⟨hopen, ?_⟩
      rintro rfl
      cases outer with
      | zero => exact hclose rfl rfl
      | succ outer => exact hclose' outer rfl rfl

/-- The offset behind the block that opens at a place. -/
theorem balanced?_ofRest (h : '(' :: rest <:+ text) :
    balanced? text (ofRest text ('(' :: rest)) =
      .ok ((Source.balanced? ('(' :: rest)).map (ofRest text)) := by
  obtain ⟨b, hbytes, hb⟩ := bytes_ascii_cons rest (c := '(') (by decide)
  rw [balanced?, holdsAt_ofRest h (by decide), ok_bind, List.head?_cons, if_pos (by rfl),
    drop_bytes_ofRest h, hbytes, closing?, if_pos hb, ofRest_succ_of_lt (by decide) h,
    closing?_ofRest ((List.suffix_cons _ _).trans h)]
  rfl

/-! ### Lists -/

/-- A search that goes over `list` ends at `behind`: there the stop word stands or the text ends,
and no stop word starts in the list. -/
structure EndsAt (stop : Option (List Char)) (list behind : List Char) : Prop where
  /-- No stop word starts in the list. -/
  free : ∀ front back, list = front ++ back → back ≠ [] → ¬startsWithStop stop (back ++ behind)
  /-- Behind the list the search is over. -/
  ends : behind = [] ∨ startsWithStop stop behind

namespace EndsAt

variable {stop : Option (List Char)} {front list behind : List Char}

theorem of_append (h : EndsAt stop (front ++ list) behind) : EndsAt stop list behind where
  free front' back hlist := h.free (front ++ front') back (by rw [hlist, List.append_assoc])
  ends := h.ends

/-- A stretch without a `)` is passed over. -/
theorem listEnd?_append (h : EndsAt stop (front ++ list) behind) (hclose : ')' ∉ front) :
    Source.listEnd? stop (front ++ list ++ behind) = Source.listEnd? stop (list ++ behind) := by
  induction front with
  | nil => rfl
  | cons c front ih =>
    have hc : c ≠ ')' := fun heq => hclose (by simp [heq])
    have hfree := h.free [] (c :: front ++ list) rfl (by simp)
    have hcons : EndsAt stop ([c] ++ (front ++ list)) behind := h
    have htail : EndsAt stop (front ++ list) behind := of_append hcons
    rw [List.cons_append, List.cons_append] at hfree ⊢
    rw [Source.listEnd?, if_neg hfree, if_neg hc, ih htail fun hmem => hclose (by simp [hmem])]

/-- Where the search ends nothing is found. -/
theorem listEnd?_eq_none (h : EndsAt stop [] behind) : Source.listEnd? stop behind = none := by
  rcases h.ends with rfl | hends
  · rfl
  · cases behind with
    | nil => rfl
    | cons c behind => rw [Source.listEnd?, if_pos hends]

/-- At a `)` the semicolon is looked for, and behind it the next `)`. -/
theorem listEnd?_close (h : EndsAt stop (')' :: list) behind) :
    Source.listEnd? stop (')' :: list ++ behind) =
      (Source.semicolon? (list ++ behind)).or (Source.listEnd? stop (list ++ behind)) := by
  have hfree := h.free [] (')' :: list) rfl (by simp)
  rw [List.cons_append] at hfree ⊢
  rw [Source.listEnd?, if_neg hfree, if_pos rfl]

/-- Without a stop word the search goes on to the end of the text. -/
theorem of_none (text : List Char) : EndsAt none text [] where
  free _ _ _ _ := by simp [startsWithStop]
  ends := .inl rfl

/-- A stop word that does not stand in a text does not end the search. -/
theorem of_cut?_eq_none {word text : List Char} (h : cut? word text = none) :
    EndsAt (some word) text [] where
  free front back htext _ hstop := by
    have hfront : word <+: back := by simpa [startsWithStop] using hstop
    have hheld : word <:+: text := hfront.isInfix.trans ⟨front, [], by simp [htext]⟩
    rw [← isSome_cut?_iff, h] at hheld
    exact Bool.noConfusion hheld
  ends := .inl rfl

/-- The first stop word ends the search. -/
theorem of_cut?_eq_some {word text before rest : List Char}
    (h : cut? word text = some (before, rest)) : EndsAt (some word) before (word ++ rest) where
  free front back hbefore hback hstop := by
    obtain ⟨htext, hfirst⟩ := cut?_eq_some_iff.1 h
    obtain ⟨more, hmore⟩ : word <+: back ++ (word ++ rest) := by
      simpa [startsWithStop] using hstop
    have hle := hfirst front more (by rw [htext, hbefore, List.append_assoc, hmore])
    rw [hbefore, List.length_append] at hle
    exact hback (List.eq_nil_of_length_eq_zero (by omega))
  ends := .inr (by simp [startsWithStop])

end EndsAt

theorem find?_eq_none {needle list : List Char} (h : cut? needle list = none) :
    find? list needle = none := by
  rw [find?, h, Option.map_none]

theorem find?_eq_some {needle list before behind : List Char}
    (h : cut? needle list = some (before, behind)) :
    find? list needle = some (byteLength before) := by
  rw [find?, h, Option.map_some]

theorem not_mem_of_cut?_eq_none {c : Char} {list : List Char} (h : cut? [c] list = none) :
    c ∉ list := by
  intro hmem
  obtain ⟨front, back, rfl⟩ := List.append_of_mem hmem
  have hheld : [c] <:+: front ++ c :: back := ⟨front, back, by simp⟩
  rw [← isSome_cut?_iff, h] at hheld
  exact Bool.noConfusion hheld

theorem not_mem_of_cut?_eq_some {c : Char} {list before behind : List Char}
    (h : cut? [c] list = some (before, behind)) : c ∉ before := by
  intro hmem
  obtain ⟨hlist, hfirst⟩ := cut?_eq_some_iff.1 h
  obtain ⟨front, back, rfl⟩ := List.append_of_mem hmem
  have hle := hfirst front (back ++ ([c] ++ behind)) (by simp [hlist])
  simp only [List.length_append, List.length_cons] at hle
  omega

theorem semicolon?_ofRest (h : rest <:+ text) :
    semicolon? text (ofRest text rest) = .ok ((Source.semicolon? rest).map (ofRest text)) := by
  have hskip := (skipBlanks_suffix rest).trans h
  rw [semicolon?, skipBlanks_ofRest h, ok_bind, holdsAt_ofRest hskip (by decide), ok_bind,
    Source.semicolon?]
  cases hrest : Text.skipBlanks rest with
  | nil => rfl
  | cons c rest =>
    rw [hrest] at hskip
    by_cases hc : c = ';'
    · subst hc
      rw [ofRest_succ_of_lt (by decide) hskip]
      rfl
    · rw [List.head?_cons, if_neg (by simpa using hc)]
      split
      · simp_all
      · rfl

/-- The search between the offsets of two places. -/
theorem listEnd?_ofRest {stop : Option (List Char)} {list behind : List Char}
    (hends : EndsAt stop list behind) (h : list ++ behind <:+ text) :
    listEnd? text (ofRest text behind) (ofRest text (list ++ behind)) =
      .ok ((Source.listEnd? stop (list ++ behind)).map (ofRest text)) := by
  -- each round of the search leaves a shorter list
  induction hlength : list.length using Nat.strong_induction_on generalizing list with
  | _ length ih =>
    rw [listEnd?]
    split
    · next fault hfault =>
      rw [part_ofRest h] at hfault
      cases hfault
    · next list' hlist =>
      rw [part_ofRest h] at hlist
      obtain rfl := Except.ok.inj hlist
      cases hcut : cut? [')'] list with
      | none =>
        -- without a further parenthesis nothing is found before the search ends
        rw [find?_eq_none hcut]
        have hnone := hends
        rw [← List.append_nil list] at hnone
        have hskip := hnone.listEnd?_append (not_mem_of_cut?_eq_none hcut)
        rw [List.append_nil, List.nil_append, hnone.of_append.listEnd?_eq_none] at hskip
        rw [hskip]
        rfl
      | some parts =>
        obtain ⟨front, back⟩ := parts
        obtain rfl : list = front ++ ')' :: back := by simpa using eq_append_of_cut?_eq_some hcut
        have hclose : ')' :: (back ++ behind) <:+ text := by
          rw [List.append_assoc] at h
          exact (List.suffix_append front _).trans h
        have hback : back ++ behind <:+ text := (List.suffix_cons _ _).trans hclose
        have hoffset : ofRest text (front ++ ')' :: back ++ behind) + byteLength front + 1 =
            ofRest text (back ++ behind) := by
          rw [List.append_assoc] at h ⊢
          rw [← ofRest_add h]
          exact ofRest_succ_of_lt (by decide) hclose
        rw [find?_eq_some hcut]
        dsimp only
        rw [hoffset, semicolon?_ofRest hback, ok_bind,
          hends.listEnd?_append (not_mem_of_cut?_eq_some hcut), hends.of_append.listEnd?_close]
        cases Source.semicolon? (back ++ behind) with
        | some after => rfl
        | none =>
          have hclosed : EndsAt stop ([')'] ++ back) behind := hends.of_append
          have hrest : EndsAt stop back behind := hclosed.of_append
          exact ih back.length (by simp [← hlength]; omega) hrest hback rfl

/-- The list that opens at a place, with its semicolon. -/
theorem portList?_ofRest {stop : Option (List Char)} (h : rest <:+ text) :
    portList? text stop (ofRest text rest) =
      .ok ((Source.portList? stop rest).map (ofRest text)) := by
  unfold portList?
  rw [holdsAt_ofRest h (by decide), ok_bind]
  by_cases hopen : rest.head? = some '('
  · obtain ⟨list, rfl⟩ := List.head?_eq_some_iff.1 hopen
    have hlist : list <:+ text := (List.suffix_cons _ _).trans h
    have hend : (bytes text).length = ofRest text [] := by rw [length_bytes, ofRest_nil]
    have hall {stop : Option (List Char)} (hends : EndsAt stop list []) :
        listEnd? text (bytes text).length (ofRest text list) =
          .ok ((Source.listEnd? stop list).map (ofRest text)) := by
      have hfound := listEnd?_ofRest hends (show list ++ [] <:+ text by rwa [List.append_nil])
      rwa [List.append_nil, ← hend] at hfound
    rw [if_pos (beq_iff_eq.2 hopen), ofRest_succ_of_lt (by decide) h, Source.portList?]
    cases stop with
    | none => exact hall (.of_none list)
    | some word =>
      dsimp only
      rw [rest_ofRest hlist, ok_bind]
      cases hcut : cut? word list with
      | none =>
        rw [find?_eq_none hcut]
        exact hall (.of_cut?_eq_none hcut)
      | some parts =>
        -- the search ends where the first stop word starts
        obtain ⟨front, back⟩ := parts
        rw [find?_eq_some hcut]
        obtain rfl := eq_append_of_cut?_eq_some hcut
        dsimp only
        rw [← ofRest_add hlist]
        exact listEnd?_ofRest (.of_cut?_eq_some hcut) hlist
  · have hnone : Source.portList? stop rest = none := by
      unfold Source.portList?
      split
      · simp at hopen
      · rfl
    rw [if_neg (by simpa using hopen), hnone]
    rfl

/-! ### Occurrences -/

theorem occurrencesFrom_of_cut?_eq_none {head : Char} {tail before list : List Char}
    (h : cut? (head :: tail) list = none) : occurrencesFrom head tail ⟨before, list⟩ = [] := by
  induction list generalizing before with
  | nil => rw [occurrencesFrom, dif_pos rfl]
  | cons c list ih =>
    rw [cut?] at h
    split at h
    · cases h
    · next hmiss =>
      rw [occurrencesFrom, dif_neg (by simp), if_neg hmiss, Cursor.advance_one rfl]
      exact ih (Option.map_eq_none_iff.1 h)

/-- A search goes on to the first occurrence, and then behind it. -/
theorem occurrencesFrom_of_cut?_eq_some {head : Char} {tail before list front behind : List Char}
    (h : cut? (head :: tail) list = some (front, behind)) :
    occurrencesFrom head tail ⟨before, list⟩ =
      ⟨front.reverse ++ before, head :: tail ++ behind⟩ ::
        occurrencesFrom head tail
          ⟨(head :: tail).reverse ++ (front.reverse ++ before), behind⟩ := by
  induction list generalizing before front with
  | nil => simp [cut?] at h
  | cons c list ih =>
    have hlist := eq_append_of_cut?_eq_some h
    rw [cut?] at h
    split at h
    · next hhit =>
      obtain ⟨rfl, -⟩ := Prod.mk.inj (Option.some_inj.1 h)
      rw [List.nil_append] at hlist
      have hadvance := Cursor.advance_of_rest_eq (c := ⟨before, c :: list⟩) hlist
      rw [List.length_cons] at hadvance
      rw [occurrencesFrom, dif_neg (by simp), if_pos hhit, hadvance, hlist]
      rfl
    · next hmiss =>
      obtain ⟨⟨front, behind⟩, hcut, heq⟩ := Option.map_eq_some_iff.1 h
      cases heq
      rw [occurrencesFrom, dif_neg (by simp), if_neg hmiss, Cursor.advance_one rfl, ih hcut]
      simp

/-! ### Places -/

theorem offset_eq_ofRest (c : Cursor) : c.offset = ofRest c.text c.rest := by
  rw [Cursor.text, ofRest_append, byteLength_reverse]
  rfl

/-- Moving to what is left arrives at its offset. -/
theorem offset_moveTo_eq_ofRest {c : Cursor} (h : rest <:+ c.rest) :
    (c.moveTo rest).offset = ofRest c.text rest := by
  rw [offset_eq_ofRest, Cursor.text_moveTo, Cursor.rest_moveTo h]

/-- The line feeds in a text are counted byte by byte. -/
theorem countP_bytes (before : List Char) :
    (bytes before).countP (fun b => charOf b = '\n') = before.count '\n' := by
  induction before with
  | nil => rfl
  | cons c before ih =>
    rw [bytes_cons, List.countP_append, ih]
    by_cases hc : c = '\n'
    · subst hc
      rw [List.count_cons_self, Nat.add_comm]
      rfl
    · have hnone : (String.utf8EncodeChar c).countP (fun b => charOf b = '\n') = 0 := by
        refine List.countP_eq_zero.2 fun b hb => ?_
        rw [decide_eq_true_eq, charOf_eq_iff hb (by decide)]
        exact hc
      rw [hnone, Nat.zero_add, List.count_cons_of_ne hc]

theorem line_offset (c : Cursor) : line c.text c.offset = .ok c.line := by
  have htake : (bytes c.text).take c.offset = bytes c.before.reverse := by
    rw [Cursor.text, bytes_append, Cursor.offset, ← byteLength_reverse, ← length_bytes,
      List.take_left]
  have hcheck : check c.text c.offset = .ok () := if_pos (isBoundary_offset c)
  rw [line, hcheck, ok_bind, htake, countP_bytes, List.count_reverse]
  rfl

theorem rest_offset (c : Cursor) : Scan.rest c.text c.offset = .ok c.rest := by
  rw [Scan.rest, Cursor.at?_offset]
  rfl

/-- The offsets of the occurrences behind a place. -/
theorem occurrences_offset (head : Char) (tail : List Char) (c : Cursor) :
    occurrences c.text (head :: tail) c.offset =
      .ok ((occurrencesFrom head tail c).map Cursor.offset) := by
  -- each round of the search leaves a shorter text
  induction hlength : c.rest.length using Nat.strong_induction_on generalizing c with
  | _ length ih =>
    obtain ⟨before, list⟩ := c
    have hle : ¬(head :: tail = [] ∨
        (bytes (Cursor.text ⟨before, list⟩)).length < Cursor.offset ⟨before, list⟩) := by
      simpa using Cursor.offset_le ⟨before, list⟩
    rw [occurrences, dif_neg hle, rest_offset, ok_bind]
    dsimp only
    cases hcut : cut? (head :: tail) list with
    | none =>
      rw [find?_eq_none hcut, occurrencesFrom_of_cut?_eq_none hcut]
      rfl
    | some parts =>
      obtain ⟨front, behind⟩ := parts
      obtain rfl := eq_append_of_cut?_eq_some hcut
      let next : Cursor := ⟨(head :: tail).reverse ++ (front.reverse ++ before), behind⟩
      have htext : next.text = Cursor.text ⟨before, front ++ (head :: tail ++ behind)⟩ := by
        simp [next, Cursor.text]
      have hnext : Cursor.offset ⟨before, front ++ (head :: tail ++ behind)⟩ + byteLength front +
          byteLength (head :: tail) = next.offset := by
        simp only [next, Cursor.offset, byteLength_append, byteLength_reverse]
        omega
      have hhere : Cursor.offset ⟨before, front ++ (head :: tail ++ behind)⟩ + byteLength front =
          Cursor.offset ⟨front.reverse ++ before, head :: tail ++ behind⟩ := by
        simp only [Cursor.offset, byteLength_append, byteLength_reverse]
        omega
      rw [find?_eq_some hcut, occurrencesFrom_of_cut?_eq_some hcut]
      dsimp only
      rw [hnext, hhere, ← htext, ih behind.length (by simp [← hlength]; omega) next rfl]
      rfl

end Scan

end DesignAtlas.Source
