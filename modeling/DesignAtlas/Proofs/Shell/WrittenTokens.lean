import DesignAtlas.Proofs.Shell.WrittenWords

/-!
# Tokens as they are written

The tokens of a line of words, of the sign `&&` and of the sign `>`, each one behind a blank.

* `fresh_written`: a written word is read up to its end and no further, and so are the signs.
* `next_fresh`, `next_putting`: a reader that asks for a token gets it, read now or put back before.
-/

namespace DesignAtlas.Shell

namespace P

variable {s : Source}

/-- Without a backslash no lines are joined. -/
theorem skipJoints_eq (h : s.text.head? ≠ some '\\') : skipJoints s = .ok ((), s) := by
  have hnone : skipJoints.joints s.text = 0 := by
    unfold skipJoints.joints
    split
    · next hjoint => simp [hjoint] at h
    · rfl
  rw [skipJoints, get_bind]
  simp only [hnone]
  rfl

theorem accept_of_absent {wanted : String} (h : s.text.head? ≠ some '\\')
    (hwanted : ¬wanted.toList <+: s.text) : accept wanted s = .ok (false, s) := by
  rw [accept, bind_of_ok (skipJoints_eq h), get_bind, if_neg (by simpa using hwanted)]
  rfl

theorem accept_of_next {wanted : String} (h : s.text.head? ≠ some '\\')
    (hwanted : wanted.toList <+: s.text) :
    accept wanted s = .ok (true, s.skipped wanted.length) := by
  rw [accept, bind_of_ok (skipJoints_eq h), get_bind, if_pos (by simpa using hwanted)]
  rfl

end P

namespace Reading

open P

variable {commands : P Command} {s : Source}

/-! ### Blanks and signs -/

/-- A character that opens a word or a sign: no blank, no backslash and no comment. -/
def opensToken (c : Char) : Bool :=
  !isBlank c && c != '\\' && c != '#'

theorem skipBlanks_eq {c : Char} {rest : List Char} (htext : s.text = c :: rest)
    (hc : opensToken c = true) (fuel : Nat) : skipBlanks fuel s = .ok ((), s) := by
  simp only [opensToken, Bool.and_eq_true, Bool.not_eq_true', bne_iff_ne] at hc
  obtain ⟨⟨hblank, hbackslash⟩, hcomment⟩ := hc
  cases fuel with
  | zero => rfl
  | succ fuel =>
    rw [skipBlanks, bind_of_ok (skipJoints_eq (by simpa [htext] using hbackslash)), get_bind, htext]
    simp only [hblank, Bool.false_eq_true, if_false]
    rfl

/-- One blank before a token is skipped. -/
theorem fresh_blank {c : Char} {rest : List Char} {fuel : Nat}
    (htext : s.text = ' ' :: c :: rest) (hc : opensToken c = true) :
    fresh commands (fuel + 1) s = fresh commands (fuel + 1) (s.skipped 1) := by
  have hbehind : (s.skipped 1).text = c :: rest := by
    rw [Source.text_skipped, htext]
    rfl
  have hblank : skipBlanks (fuel + 1) s = .ok ((), s.skipped 1) := by
    rw [skipBlanks, bind_of_ok (skipJoints_eq (by simp [htext])), get_bind, htext]
    exact skipBlanks_eq hbehind hc fuel
  rw [fresh, bind_of_ok hblank, bind_of_ok (skipBlanks_eq hbehind hc (fuel + 1))]

theorem sign?_eq_none {α : Type} {signs : List (String × α)} (h : s.text.head? ≠ some '\\')
    (hsigns : ∀ known ∈ signs, ¬known.1.toList <+: s.text) : sign? signs s = .ok (none, s) := by
  induction signs with
  | nil => rfl
  | cons known signs ih =>
    rw [sign?, bind_of_ok (accept_of_absent h (hsigns known (by simp)))]
    exact ih fun other hother => hsigns other (by simp [hother])

theorem sign?_eq_some {α : Type} {sign : String} {meaning : α} (before : List (String × α))
    {after : List (String × α)}
    (h : s.text.head? ≠ some '\\') (hbefore : ∀ known ∈ before, ¬known.1.toList <+: s.text)
    (hsign : sign.toList <+: s.text) :
    sign? (before ++ (sign, meaning) :: after) s = .ok (some meaning, s.skipped sign.length) := by
  induction before with
  | nil =>
    rw [List.nil_append, sign?, bind_of_ok (accept_of_next h hsign)]
    rfl
  | cons known before ih =>
    rw [List.cons_append, sign?, bind_of_ok (accept_of_absent h (hbefore known (by simp)))]
    exact ih fun other hother => hbefore other (by simp [hother])

/-- In the plain dialect a redirection is told by its sign alone. -/
theorem redirection?_plain (hplain : s.dialect = .plain) :
    redirection? none s = (do
      if ← accept "<<" then return some (.document none (← accept "-"))
      return (← sign? (directions .plain)).map (.redirection none) : P (Option Token)) s := by
  rw [redirection?, get_bind, get_bind, hplain]
  simp only [reduceCtorEq, if_false, false_and]
  -- what follows the look at the text is the same in every case
  refine congrFun ?_ s
  split <;> rfl

/-- A sign that starts with a character that ends words does not stand where a word starts. -/
theorem not_prefix_of_endsWord {sign : List Char} {c : Char} {rest : List Char}
    (hsign : sign.head?.any endsWord = true) (hc : endsWord c = false) : ¬sign <+: c :: rest := by
  rintro ⟨tail, htail⟩
  cases sign with
  | nil => simp at hsign
  | cons d sign =>
    obtain ⟨rfl, -⟩ := List.cons_eq_cons.1 htail
    simp [hc] at hsign

theorem redirection?_eq_none {c : Char} {rest : List Char} (hplain : s.dialect = .plain)
    (htext : s.text = c :: rest) (hc : endsWord c = false) (hbackslash : c ≠ '\\') :
    redirection? none s = .ok (none, s) := by
  have hhead : s.text.head? ≠ some '\\' := by simpa [htext] using hbackslash
  have hdocument : ¬"<<".toList <+: s.text := htext ▸ not_prefix_of_endsWord (by decide) hc
  have hstarts : ∀ known ∈ directions .plain, known.1.toList.head?.any endsWord = true := by decide
  have hsigns : ∀ known ∈ directions .plain, ¬known.1.toList <+: s.text :=
    fun known hknown => htext ▸ not_prefix_of_endsWord (hstarts known hknown) hc
  rw [redirection?_plain hplain, bind_of_ok (accept_of_absent hhead hdocument)]
  simp only [Bool.false_eq_true, if_false]
  rw [bind_of_ok (sign?_eq_none hhead hsigns)]
  rfl

theorem descriptorLength_eq_zero {c : Char} {rest : List Char} (hc : c.isDigit = false) :
    descriptorLength .plain (c :: rest) = 0 := by
  simp [descriptorLength, hc]

/-- Where no digits stand, first a redirection is looked for, then an operator and then a word. -/
theorem fresh_eq {c : Char} {rest : List Char} {fuel : Nat} (hplain : s.dialect = .plain)
    (htext : s.text = c :: rest) (hopens : opensToken c = true) (hline : c ≠ '\n')
    (hdigit : c.isDigit = false) :
    fresh commands fuel s = (do
      match ← redirection? none with
      | some t => return t
      | none =>
        match ← sign? (operators .plain) with
        | some o => return .operator o
        | none => return .word (← word commands fuel) : P Token) s := by
  rw [fresh, bind_of_ok (skipBlanks_eq htext hopens fuel), get_bind, hplain]
  generalize s.text = text at htext
  split
  · cases htext
  · exact absurd (List.cons_eq_cons.1 htext).1.symm hline
  · rw [htext, descriptorLength_eq_zero hdigit]
    rfl

/-- A word is read where none of the signs stands. -/
theorem fresh_word {c : Char} {rest : List Char} {w : Word} {s' : Source} {fuel : Nat}
    (hplain : s.dialect = .plain) (htext : s.text = c :: rest) (hopens : opensToken c = true)
    (hc : endsWord c = false) (hdigit : c.isDigit = false)
    (hword : word commands fuel s = .ok (w, s')) :
    fresh commands fuel s = .ok (.word w, s') := by
  have hbackslash : c ≠ '\\' := by
    rintro rfl
    simp [opensToken] at hopens
  have hline : c ≠ '\n' := by
    rintro rfl
    simp [endsWord] at hc
  have hhead : s.text.head? ≠ some '\\' := by simpa [htext] using hbackslash
  have hstarts : ∀ known ∈ operators .plain, known.1.toList.head?.any endsWord = true := by decide
  have hsigns : ∀ known ∈ operators .plain, ¬known.1.toList <+: s.text :=
    fun known hknown => htext ▸ not_prefix_of_endsWord (hstarts known hknown) hc
  rw [fresh_eq hplain htext hopens hline hdigit,
    bind_of_ok (redirection?_eq_none hplain htext hc hbackslash)]
  simp only
  rw [bind_of_ok (sign?_eq_none hhead hsigns)]
  simp only
  rw [bind_of_ok hword]
  rfl

theorem fresh_both {rest : List Char} {fuel : Nat} (hplain : s.dialect = .plain)
    (htext : s.text = '&' :: '&' :: rest) :
    fresh commands fuel s = .ok (.operator .both, s.skipped 2) := by
  have hhead : s.text.head? ≠ some '\\' := by simp [htext]
  have hdirections : ∀ known ∈ directions .plain, ¬known.1.toList <+: s.text := by
    simp [directions, htext]
  have hredirection : redirection? none s = .ok (none, s) := by
    rw [redirection?_plain hplain, bind_of_ok (accept_of_absent hhead (by simp [htext]))]
    simp only [Bool.false_eq_true, if_false]
    rw [bind_of_ok (sign?_eq_none hhead hdirections)]
    rfl
  have hsign : sign? (operators .plain) s = .ok (some .both, s.skipped 2) :=
    sign?_eq_some [] hhead (by simp) (by simp [htext])
  rw [fresh_eq hplain htext (by decide) (by decide) (by decide), bind_of_ok hredirection]
  simp only
  rw [bind_of_ok hsign]
  rfl

theorem fresh_into {rest : List Char} {fuel : Nat} (hplain : s.dialect = .plain)
    (htext : s.text = '>' :: ' ' :: rest) :
    fresh commands fuel s = .ok (.redirection none .replace, s.skipped 1) := by
  have hhead : s.text.head? ≠ some '\\' := by simp [htext]
  have hsign : sign? (directions .plain) s = .ok (some .replace, s.skipped 1) :=
    sign?_eq_some ((directions .plain).take 3) hhead (by simp [directions, htext])
      (by simp [htext])
  have hredirection : redirection? none s =
      .ok (some (.redirection none .replace), s.skipped 1) := by
    rw [redirection?_plain hplain, bind_of_ok (accept_of_absent hhead (by simp [htext]))]
    simp only [Bool.false_eq_true, if_false]
    rw [bind_of_ok hsign]
    rfl
  rw [fresh_eq hplain htext (by decide) (by decide) (by decide), bind_of_ok hredirection]
  rfl

theorem fresh_ending {fuel : Nat} (htext : s.text = []) :
    fresh commands fuel s = .ok (.ending, s) := by
  have hblanks : skipBlanks fuel s = .ok ((), s) := by
    cases fuel with
    | zero => rfl
    | succ fuel =>
      rw [skipBlanks, bind_of_ok (skipJoints_eq (by simp [htext])), get_bind, htext]
      rfl
  rw [fresh, bind_of_ok hblanks, get_bind, htext]
  rfl

/-! ### Written tokens -/

theorem Written.exists_cons (w : Written) :
    ∃ c tail, w.chars = c :: tail ∧ opensToken c = true ∧ endsWord c = false ∧
      c.isDigit = false := by
  cases w with
  | bare text h =>
    simp only [isBareWord, Bool.and_eq_true, List.all_eq_true] at h
    obtain ⟨hbare, hhead⟩ := h
    cases text with
    | nil => simp at hhead
    | cons c text =>
      have hc := hbare c (by simp)
      refine ⟨c, text, rfl, ?_⟩
      simp_all [isBare, opensToken, endsWord]
  | quoted text h => exact ⟨'"', text ++ ['"'], rfl, by decide, by decide, by decide⟩

/-- A written word is the next token. -/
theorem fresh_written {w : Written} {rest : List Char} {fuel : Nat} (hplain : s.dialect = .plain)
    (htext : s.text = w.chars ++ rest) (hrest : EndsHere rest) (hfuel : w.chars.length < fuel) :
    fresh commands fuel s = .ok (.word w.word, s.skipped w.chars.length) := by
  obtain ⟨c, tail, hchars, hopens, hc, hdigit⟩ := w.exists_cons
  have hcons : s.text = c :: (tail ++ rest) := by rw [htext, hchars, List.cons_append]
  exact fresh_word hplain hcons hopens hc hdigit (word_written hplain htext hrest hfuel)

/-- So is one behind a blank. -/
theorem fresh_blank_written {w : Written} {rest : List Char} {fuel : Nat}
    (hplain : s.dialect = .plain) (htext : s.text = ' ' :: w.chars ++ rest) (hrest : EndsHere rest)
    (hfuel : w.chars.length < fuel) :
    fresh commands fuel s = .ok (.word w.word, s.skipped (' ' :: w.chars).length) := by
  obtain ⟨fuel, rfl⟩ := Nat.exists_eq_add_one_of_ne_zero (Nat.ne_of_gt (Nat.zero_lt_of_lt hfuel))
  obtain ⟨c, tail, hchars, hopens, -⟩ := w.exists_cons
  have hbehind : (s.skipped 1).text = w.chars ++ rest := by
    rw [Source.text_skipped, htext]
    rfl
  rw [fresh_blank (by rw [htext, hchars]; rfl) hopens,
    fresh_written (s := s.skipped 1) hplain hbehind hrest hfuel, Source.skipped_skipped,
    List.length_cons, Nat.add_comm]

/-! ### Tokens that are asked for -/

/-- A reader that expects something takes a token as it stands: no end of a line, and no word that
is reserved there. -/
def Stands (e : Expecting) : Token → Prop
  | .newline => False
  | .word w => e.reserved = true → ∀ text ∈ Word.bareText? w, text ∉ reservedWords .plain
  | _ => True

/-- A token that was put back is taken again. -/
theorem next_putting {e : Expecting} {t : Token} {fuel : Nat} (hplain : s.dialect = .plain)
    (haliases : s.aliases = []) (hpushed : s.pushed = none) (ht : Stands e t) :
    next commands e (fuel + 1) (s.putting t) = .ok (t, s) := by
  rw [next, get_bind, show (s.putting t).pushed = some t from rfl]
  simp only
  rw [set_bind, P.pure_bind, Source.putting_of_pushed hpushed]
  cases t with
  | newline => exact ht.elim
  | word w =>
    simp only
    cases hbare : Word.bareText? w with
    | none => rfl
    | some text =>
      have hreserved : (e.reserved && (reservedWords .plain).contains text) = false := by
        cases hexpected : e.reserved with
        | false => rfl
        | true => simpa using ht hexpected text hbare
      simp only
      rw [get_bind, hplain, hreserved, haliases]
      rfl
  | _ => rfl

/-- A token that is read from the text is taken like one that was put back behind it. -/
theorem next_fresh {e : Expecting} {t : Token} {behind : Source} {fuel : Nat}
    (hpushed : s.pushed = none) (hread : fresh commands fuel s = .ok (t, behind))
    (hplain : behind.dialect = .plain) (haliases : behind.aliases = [])
    (hbehind : behind.pushed = none) (ht : Stands e t) :
    next commands e (fuel + 1) s = .ok (t, behind) := by
  have hback : next commands e (fuel + 1) (behind.putting t) = .ok (t, behind) :=
    next_putting hplain haliases hbehind ht
  rw [next, get_bind, show (behind.putting t).pushed = some t from rfl] at hback
  simp only at hback
  rw [set_bind, P.pure_bind, Source.putting_of_pushed hbehind] at hback
  rw [next, get_bind, hpushed]
  simp only
  rw [bind_of_ok hread]
  exact hback

end Reading

end DesignAtlas.Shell
