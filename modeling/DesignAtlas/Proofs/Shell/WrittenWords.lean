import DesignAtlas.Shell.Reading.Tokens
import Mathlib.Data.List.Infix
import Mathlib.Data.Nat.Init

/-!
# Words as they are written

How a POSIX shell reads a word: a bare one, of characters without any meaning of their own, and one
between double quotes. Quotes keep blanks, operators and most other signs in the word.

* `keptInQuotes`: the texts that double quotes keep as they are.
* `pieces_quotes`: such a text is read as itself.
* `word_written`: a written word is read up to its end and no further.
-/

namespace DesignAtlas.Shell

/-! ### Steps of readers -/

/-- A source with characters taken away, and the lines counted that end among them. -/
def Source.skipped (s : Source) (count : Nat) : Source :=
  { s with text := s.text.drop count, line := s.line + (s.text.take count).count '\n' }

/-- A source with a token that was put back. -/
def Source.putting (s : Source) (t : Token) : Source :=
  { s with pushed := some t }

namespace P

theorem bind_of_ok {α β : Type} {r : P α} {f : α → P β} {s s' : Source} {a : α}
    (h : r s = .ok (a, s')) : (r >>= f) s = f a s' := by
  show (r s >>= fun p => f p.1 p.2) = f a s'
  rw [h]
  rfl

theorem get_bind {β : Type} {f : Source → P β} {s : Source} :
    ((get : P Source) >>= f) s = f s s := rfl

theorem set_bind {β : Type} {f : PUnit → P β} {s s' : Source} :
    ((set s' : P PUnit) >>= f) s = f ⟨⟩ s' := rfl

theorem pure_bind {α β : Type} {f : α → P β} {s : Source} (a : α) :
    ((pure a : P α) >>= f) s = f a s := rfl

theorem skip_bind {β : Type} {f : Unit → P β} {s : Source} (count : Nat) :
    (skip count >>= f) s = f () (s.skipped count) := rfl

theorem putBack_bind {β : Type} {f : Unit → P β} {s : Source} (t : Token) :
    (putBack t >>= f) s = f () (s.putting t) := rfl

theorem takeWhile_eq (p : Char → Bool) (s : Source) :
    takeWhile p s = .ok (s.text.takeWhile p, s.skipped (s.text.takeWhile p).length) := rfl

end P

namespace Source

@[simp]
theorem text_skipped (s : Source) (count : Nat) : (s.skipped count).text = s.text.drop count := rfl

@[simp]
theorem dialect_skipped (s : Source) (count : Nat) : (s.skipped count).dialect = s.dialect := rfl

@[simp]
theorem pushed_skipped (s : Source) (count : Nat) : (s.skipped count).pushed = s.pushed := rfl

@[simp]
theorem aliases_skipped (s : Source) (count : Nat) : (s.skipped count).aliases = s.aliases := rfl

theorem putting_of_pushed {s : Source} (hpushed : s.pushed = none) (t : Token) :
    { s.putting t with pushed := none } = s := by
  cases s
  simp_all [putting]

@[simp]
theorem skipped_skipped (s : Source) (first second : Nat) :
    (s.skipped first).skipped second = s.skipped (first + second) := by
  simp only [skipped, List.drop_drop, List.take_add, List.count_append, Nat.add_assoc]

end Source

namespace Reading

open P

variable {commands : P Command}

/-! ### Characters that stand for themselves -/

/-- The pieces of a text that stands for itself. -/
def literalPieces (quoted : Bool) (text : List Char) : Word :=
  if text.isEmpty then [] else [.literal (String.ofList text) quoted]

theorem withText_literalPieces {quoted : Bool} {first second : List Char} (hfirst : first ≠ []) :
    Word.withText (String.ofList first) quoted (literalPieces quoted second) =
      literalPieces quoted (first ++ second) := by
  cases first with
  | nil => exact absurd rfl hfirst
  | cons c first =>
    cases second with
    | nil => simp [literalPieces, Word.withText]
    | cons d second =>
      simp only [literalPieces, List.isEmpty_cons, Bool.false_eq_true, if_false, List.cons_append,
        Word.withText, if_true]
      rw [← String.ofList_append, List.cons_append]

/-- Whether double quotes keep a text as it is: it holds no double quote, no dollar sign and no
backquote, and a backslash only before a character other than a backslash and a line feed. -/
def keptInQuotes : List Char → Bool
  | [] => true
  | c :: rest =>
    !(['"', '$', '\x60'].contains c) &&
      (c != '\\' || rest.head?.any fun d => d != '\\' && d != '\n') && keptInQuotes rest

/-- Whether a character stands for itself outside quotes. -/
def isBare (c : Char) : Bool :=
  !endsWord c && !(['\\', '\x27', '"', '$', '\x60'].contains c)

/-- A word ends where a text starts. -/
def EndsHere (rest : List Char) : Prop :=
  ∀ c ∈ rest.head?, endsWord c = true

theorem takeWhile_append_of_head {p : Char → Bool} {text rest : List Char}
    (hrest : ∀ c ∈ rest.head?, p c = false) :
    (text ++ rest).takeWhile p = text.takeWhile p := by
  induction text with
  | nil =>
    cases rest with
    | nil => rfl
    | cons c rest => simp [hrest c rfl]
  | cons c text ih => simp only [List.cons_append, List.takeWhile_cons, ih]

theorem keptInQuotes_cons_iff {c : Char} {rest : List Char} :
    keptInQuotes (c :: rest) = true ↔ c ∉ ['"', '$', '\x60'] ∧
      (c = '\\' → ∃ d tail, rest = d :: tail ∧ d ≠ '\\' ∧ d ≠ '\n') ∧
        keptInQuotes rest = true := by
  rw [keptInQuotes, Bool.and_eq_true, Bool.and_eq_true, and_assoc]
  refine and_congr (by simp) (and_congr_left fun _ => ?_)
  cases rest with
  | nil => simp
  | cons d tail => simp [or_iff_not_imp_left]

/-! ### Rounds -/

variable (commands) in
/-- From the start of a text some of its characters are taken as themselves, and the pieces go on
behind them. -/
def TakesFront (scope : Scope) (s : Source) (text : List Char) : Prop :=
  ∃ front back, text = front ++ back ∧ front ≠ [] ∧ ∀ fuel others s',
    pieces commands (fuel + 1) scope (s.skipped front.length) = .ok (others, s') →
      pieces commands (fuel + 2) scope s =
        .ok (Word.withText (String.ofList front) scope.quoted others, s')

/-- A text of which some characters are taken in every round is read as itself. -/
theorem pieces_of_takesFront {scope : Scope} (holds : List Char → Prop) {s : Source}
    {text rest : List Char} {fuel : Nat} (hplain : s.dialect = .plain)
    (htext : s.text = text ++ rest) (hholds : holds text)
    (hsuffix : ∀ front back, holds (front ++ back) → holds back)
    (hend : scope.endsAt .plain rest = true)
    (hround : ∀ s text, s.dialect = .plain → s.text = text ++ rest → text ≠ [] → holds text →
      TakesFront commands scope s text)
    (hfuel : text.length < fuel) :
    pieces commands fuel scope s =
      .ok (literalPieces scope.quoted text, s.skipped text.length) := by
  -- each round leaves a shorter text
  induction hlength : text.length using Nat.strong_induction_on generalizing s text fuel with
  | _ length ih =>
    subst hlength
    obtain ⟨fuel, rfl⟩ := Nat.exists_eq_add_one_of_ne_zero (Nat.ne_of_gt (Nat.zero_lt_of_lt hfuel))
    by_cases hempty : text = []
    · subst hempty
      rw [pieces, get_bind, htext, hplain, List.nil_append, if_pos hend]
      rfl
    · obtain ⟨front, back, rfl, hfront, hpieces⟩ := hround s text hplain htext hempty hholds
      have hpos := List.length_pos_iff.2 hfront
      rw [List.length_append] at hfuel
      obtain ⟨fuel, rfl⟩ : ∃ k, fuel = k + 1 := ⟨fuel - 1, by omega⟩
      have hback : (s.skipped front.length).text = back ++ rest := by
        rw [Source.text_skipped, htext, List.append_assoc, List.drop_left]
      have hrun : pieces commands (fuel + 1) scope (s.skipped front.length) =
          .ok (literalPieces scope.quoted back, (s.skipped front.length).skipped back.length) :=
        ih back.length (by rw [List.length_append]; omega) hplain hback (hsuffix _ _ hholds)
          (by omega) rfl
      rw [hpieces fuel _ _ hrun, withText_literalPieces hfront, Source.skipped_skipped,
        List.length_append]

/-- A run of plain characters is taken at once. -/
theorem takesFront_plain {scope : Scope} {s : Source} {c : Char} {text rest : List Char}
    (htext : s.text = c :: text ++ rest) (hend : scope.endsAt s.dialect s.text = false)
    (hc : scope.isPlain c = true) (hrest : ∀ d ∈ rest.head?, scope.isPlain d = false) :
    TakesFront commands scope s (c :: text) := by
  have htake : s.text.takeWhile scope.isPlain = (c :: text).takeWhile scope.isPlain := by
    rw [htext, takeWhile_append_of_head hrest]
  refine ⟨_, _, (List.takeWhile_append_dropWhile (p := scope.isPlain)).symm, by simp [hc],
    fun fuel others s' h => ?_⟩
  have htaken := takeWhile_eq scope.isPlain s
  rw [htake] at htaken
  rw [pieces, get_bind, hend, htext, List.cons_append]
  simp only [Bool.false_eq_true, if_false, hc, if_true]
  rw [bind_of_ok htaken, bind_of_ok h]
  rfl

/-- A sign that stands for itself is taken with what it takes along. -/
theorem takesFront_sign {scope : Scope} {s : Source} {c : Char} (taken : List Char)
    {text rest : List Char}
    (htext : s.text = c :: taken ++ text ++ rest) (hend : scope.endsAt s.dialect s.text = false)
    (hc : scope.isPlain c = false) (hnext : scope.next c = scope)
    (hpiece : ∀ fuel, piece commands (fuel + 1) scope c s =
      .ok ([.literal (String.ofList (c :: taken)) scope.quoted], s.skipped (c :: taken).length)) :
    TakesFront commands scope s (c :: taken ++ text) := by
  refine ⟨c :: taken, text, rfl, by simp, fun fuel others s' h => ?_⟩
  rw [pieces, get_bind, hend, htext, List.cons_append, List.cons_append]
  simp only [Bool.false_eq_true, if_false, hc]
  rw [bind_of_ok (hpiece fuel), hnext, bind_of_ok h]
  rfl

/-! ### Between double quotes -/

/-- A character without a meaning of its own stands for itself. -/
theorem piece_literal {scope : Scope} {s : Source} {c : Char} {fuel : Nat}
    (hplain : s.dialect = .plain) (hc : c ∉ ['\\', '\x27', '"', '$', '\x60']) :
    piece commands (fuel + 1) scope c s =
      .ok ([.literal c.toString scope.quoted], s.skipped 1) := by
  rw [piece, get_bind, skip_bind, hplain]
  split
  case h_6 =>
    rw [get_bind]
    rfl
  all_goals simp at hc

/-- Between double quotes a single quote stands for itself as well. -/
theorem piece_quotes {s : Source} {c : Char} {fuel : Nat} (hplain : s.dialect = .plain)
    (hc : c ∉ ['\\', '"', '$', '\x60']) :
    piece commands (fuel + 1) .quotes c s = .ok ([.literal c.toString true], s.skipped 1) := by
  by_cases hquote : c = '\x27'
  · subst hquote
    rw [piece, get_bind, skip_bind]
    rfl
  · exact piece_literal hplain (by simp_all)

/-- Between double quotes a backslash before most characters stands for itself. -/
theorem piece_backslash {s : Source} {sign c : Char} {rest : List Char} {fuel : Nat}
    (hsign : sign = '\\') (htext : s.text = sign :: c :: rest)
    (hc : c ∉ ['\\', '\n', '"', '$', '\x60']) :
    piece commands (fuel + 1) .quotes sign s =
      .ok ([.literal (String.ofList [sign, c]) true], s.skipped 2) := by
  have hbehind : (s.skipped 1).text = c :: rest := by rw [Source.text_skipped, htext]; rfl
  have hline : c = '\n' → False := by
    rintro rfl
    simp at hc
  have hescapes : Scope.quotes.escapes c = false := by
    simp only [Scope.escapes]
    simp_all
  rw [piece, get_bind, skip_bind]
  split
  case h_1 =>
    rw [get_bind, hbehind]
    simp only [Scope.quoted, hescapes, Bool.not_false, Bool.and_self, if_true]
    rw [skip_bind, Source.skipped_skipped]
    rfl
  all_goals simp_all

theorem keptInQuotes_of_append {front back : List Char}
    (hkept : keptInQuotes (front ++ back) = true) : keptInQuotes back = true := by
  induction front with
  | nil => exact hkept
  | cons c front ih => exact ih (keptInQuotes_cons_iff.1 hkept).2.2

/-- A text that double quotes keep is read up to the closing quote as itself. -/
theorem pieces_quotes {s : Source} {text rest : List Char} {fuel : Nat}
    (hplain : s.dialect = .plain) (htext : s.text = text ++ '"' :: rest)
    (hkept : keptInQuotes text = true) (hfuel : text.length < fuel) :
    pieces commands fuel .quotes s = .ok (literalPieces true text, s.skipped text.length) := by
  refine pieces_of_takesFront (keptInQuotes · = true) hplain htext hkept
    (fun _ _ => keptInQuotes_of_append) rfl (fun s text hplain htext hne hkept => ?_) hfuel
  obtain ⟨c, text, rfl⟩ := List.exists_cons_of_ne_nil hne
  obtain ⟨hsign, hbackslash, hrestKept⟩ := keptInQuotes_cons_iff.1 hkept
  have hend : Scope.quotes.endsAt s.dialect s.text = false := by
    rw [htext]
    simp_all [Scope.endsAt]
  by_cases hc : Scope.quotes.isPlain c = true
  · refine takesFront_plain htext hend hc fun d hd => ?_
    cases hd
    decide
  have hc : Scope.quotes.isPlain c = false := by simpa using hc
  by_cases hescape : c = '\\'
  · -- the backslash is taken with the character behind it
    obtain ⟨d, tail, rfl, hd, hline⟩ := hbackslash hescape
    have hsign' := (keptInQuotes_cons_iff.1 hrestKept).1
    exact takesFront_sign [d] htext hend hc rfl fun fuel =>
      piece_backslash hescape htext (by simp_all)
  · exact takesFront_sign [] htext hend hc rfl fun fuel =>
      piece_quotes hplain (by simp_all)

/-! ### Outside quotes -/

/-- What ends a word is not plain. -/
theorem isPlain_eq_false_of_endsWord {c : Char} (hc : endsWord c = true) :
    Scope.word.isPlain c = false := by
  simp only [endsWord, isBlank, Bool.or_eq_true, beq_iff_eq, List.contains_eq_mem,
    List.mem_cons, List.not_mem_nil, or_false, decide_eq_true_eq] at hc
  rcases hc with (rfl | rfl) | rfl | rfl | rfl | rfl | rfl | rfl | rfl | rfl <;> rfl

theorem endsAt_word_cons (c : Char) (text : List Char) :
    Scope.word.endsAt .plain (c :: text) = endsWord c := by
  simp [Scope.endsAt]

theorem endsAt_word {text : List Char} (h : EndsHere text) :
    Scope.word.endsAt .plain text = true := by
  cases text with
  | nil => rfl
  | cons c text => rw [endsAt_word_cons, h c rfl]

/-- Characters without a meaning of their own are read up to the end of the word. -/
theorem pieces_bare {s : Source} {text rest : List Char} {fuel : Nat}
    (hplain : s.dialect = .plain) (htext : s.text = text ++ rest)
    (hbare : ∀ c ∈ text, isBare c = true) (hrest : EndsHere rest) (hfuel : text.length < fuel) :
    pieces commands fuel .word s = .ok (literalPieces false text, s.skipped text.length) := by
  refine pieces_of_takesFront (fun text => ∀ c ∈ text, isBare c = true) hplain htext hbare
    (fun _ _ h c hc => h c (by simp [hc])) (endsAt_word hrest)
    (fun s text hplain htext hne hbare => ?_) hfuel
  obtain ⟨c, text, rfl⟩ := List.exists_cons_of_ne_nil hne
  have hsign : endsWord c = false ∧ c ∉ ['\\', '\x27', '"', '$', '\x60'] := by
    simpa [isBare] using hbare c (by simp)
  have hend : Scope.word.endsAt s.dialect s.text = false := by
    rw [htext, hplain, List.cons_append, endsAt_word_cons, hsign.1]
  -- a sign that means something elsewhere only is taken alone
  by_cases hc : Scope.word.isPlain c = true
  · exact takesFront_plain htext hend hc fun d hd => isPlain_eq_false_of_endsWord (hrest d hd)
  · exact takesFront_sign [] htext hend (by simpa using hc) rfl fun fuel =>
      piece_literal hplain hsign.2

/-- A text between double quotes makes a word of its own. -/
theorem pieces_quoted {s : Source} {text rest : List Char} {fuel : Nat}
    (hplain : s.dialect = .plain) (htext : s.text = '"' :: (text ++ '"' :: rest))
    (hkept : keptInQuotes text = true) (hrest : EndsHere rest) (hfuel : text.length + 2 < fuel) :
    pieces commands fuel .word s = .ok (quotedText text, s.skipped (text.length + 2)) := by
  obtain ⟨fuel, rfl⟩ : ∃ k, fuel = k + 2 := ⟨fuel - 2, by omega⟩
  have hend : Scope.word.endsAt s.dialect s.text = false := by
    rw [htext, hplain, endsAt_word_cons]
    rfl
  have hinside : (s.skipped 1).text = text ++ '"' :: rest := by
    rw [Source.text_skipped, htext]
    rfl
  have hbehind : (s.skipped (text.length + 2)).text = rest := by
    rw [Source.text_skipped, htext, List.append_cons]
    exact List.drop_left' (by simp)
  have hgroup : quotedGroup .plain (literalPieces true text) = quotedText text := by
    cases text <;> rfl
  -- the opening quote is skipped, the text is read, and the closing quote is skipped
  have hpiece : piece commands (fuel + 1) .word '"' s =
      .ok (quotedText text, s.skipped (text.length + 2)) := by
    have hread : pieces commands fuel .quotes (s.skipped 1) =
        .ok (literalPieces true text, (s.skipped 1).skipped text.length) :=
      pieces_quotes hplain hinside hkept (by omega)
    rw [piece, get_bind, skip_bind, hplain]
    simp only
    rw [bind_of_ok hread, skip_bind, hgroup, Source.skipped_skipped, Source.skipped_skipped,
      show 1 + (text.length + 1) = text.length + 2 by omega]
    rfl
  have hothers : pieces commands (fuel + 1) .word (s.skipped (text.length + 2)) =
      .ok ([], s.skipped (text.length + 2)) := by
    rw [pieces, get_bind, hbehind, Source.dialect_skipped, hplain, if_pos (endsAt_word hrest)]
    rfl
  rw [pieces, get_bind, hend, htext]
  simp only [Bool.false_eq_true, if_false, show Scope.word.isPlain '"' = false from rfl]
  rw [bind_of_ok hpiece, show Scope.word.next '"' = .word from rfl, bind_of_ok hothers]
  cases text <;> rfl

/-! ### Words -/

/-- Whether a text is a word of characters without a meaning of their own. Digits in front could
belong to a redirection. -/
def isBareWord (text : List Char) : Bool :=
  text.all isBare && text.head?.any fun c => c != '#' && !c.isDigit

/-- A word as it is written. -/
inductive Written where
  /-- Without quotes. -/
  | bare (text : List Char) (h : isBareWord text = true)
  /-- Between double quotes. -/
  | quoted (text : List Char) (h : keptInQuotes text = true)

namespace Written

/-- The characters that are written. -/
def chars : Written → List Char
  | bare text _ => text
  | quoted text _ => '"' :: (text ++ ['"'])

/-- What the word is read as. -/
def word : Written → Word
  | bare text _ => literalPieces false text
  | quoted text _ => quotedText text

end Written

theorem joined_literalPieces (quoted : Bool) (text : List Char) :
    joined (literalPieces quoted text) = literalPieces quoted text := by
  cases text <;> rfl

/-- A written word is read up to its end and no further. -/
theorem word_written {s : Source} {w : Written} {rest : List Char} {fuel : Nat}
    (hplain : s.dialect = .plain) (htext : s.text = w.chars ++ rest) (hrest : EndsHere rest)
    (hfuel : w.chars.length < fuel) :
    word commands fuel s = .ok (w.word, s.skipped w.chars.length) := by
  have hhead (found : Word) {s' : Source} (h : pieces commands fuel .word s = .ok (found, s')) :
      word commands fuel s = .ok (joined found, s') := by
    rw [word, get_bind, hplain, if_neg (by simp)]
    show (pieces commands fuel .word >>= fun found => pure (joined found)) s = _
    rw [bind_of_ok h]
    rfl
  cases w with
  | bare text h =>
    rw [isBareWord, Bool.and_eq_true, List.all_eq_true] at h
    have hbare := h.1
    rw [hhead _ (pieces_bare hplain htext hbare hrest hfuel), joined_literalPieces]
    rfl
  | quoted text h =>
    have hlength : (Written.quoted text h).chars.length = text.length + 2 := by
      simp [Written.chars]
    rw [hlength] at hfuel ⊢
    have hquoted : s.text = '"' :: (text ++ '"' :: rest) := by
      simpa [Written.chars] using htext
    rw [hhead _ (pieces_quoted hplain hquoted h hrest hfuel)]
    cases text <;> rfl

end Reading

end DesignAtlas.Shell
