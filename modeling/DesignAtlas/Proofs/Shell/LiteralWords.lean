import DesignAtlas.Proofs.Shell.WrittenWords
import DesignAtlas.Shell.Step

/-!
# What written words stand for

The fields that a POSIX shell makes of a written word. There is nothing in such a word to put in, so
no command is carried out for it and the session stays as it is.

* `isOpen_ofChars_eq_false`: without a sign outside quotes a field is no pattern.
* `wordFields_written`: a written word stands for one field.
* `fieldsOf_written`: so the words of a command stand for fields one by one.
* `targetText_written`: a file that takes output has the name that is written.
-/

namespace DesignAtlas.Shell

/-! ### Steps of sessions -/

namespace Run

theorem bind_of_ok {α β : Type} {r : Run α} {f : α → Run β} {s s' : Session} {a : α}
    (h : r s = (.ok a, s')) : (r >>= f) s = f a s' := by
  show (ExceptT.bind r f) s = f a s'
  simp only [ExceptT.bind, ExceptT.mk, bind, StateT.bind]
  rw [h]
  rfl

theorem get_bind {β : Type} {f : Session → Run β} {s : Session} :
    ((get : Run Session) >>= f) s = f s s := rfl

/-- What is done for every member of a list without a trace is done for the list. -/
theorem mapM_of_ok {α β : Type} {f : α → Run β} {g : α → β} {s : Session} {items : List α}
    (h : ∀ a ∈ items, f a s = (.ok (g a), s)) : items.mapM f s = (.ok (items.map g), s) := by
  induction items with
  | nil => rfl
  | cons a items ih =>
    have hothers := ih fun b hb => h b (by simp [hb])
    rw [List.mapM_cons, bind_of_ok (h a (by simp)), bind_of_ok hothers]
    rfl

end Run

open Run

variable {s : Session}

/-! ### Patterns -/

/-- Whether a character stands for itself in a pattern of the plain dialect. -/
def PatternChar.isLiteral (c : PatternChar) : Bool :=
  c.quoted || !(['*', '?', '[', '\\'].contains c.char)

theorem unescaped_eq {chars : List PatternChar} (h : ∀ c ∈ chars, c.isLiteral = true) :
    Pattern.unescaped chars = chars := by
  induction chars with
  | nil => rfl
  | cons c chars ih =>
    rw [Pattern.unescaped, ih fun d hd => h d (by simp [hd])]
    rintro d rest rfl rfl
    simpa [PatternChar.isLiteral] using h ⟨'\\', false⟩ (by simp)

theorem isOpen_ofUnescaped_eq_false {chars : List PatternChar}
    (h : ∀ c ∈ chars, c.isLiteral = true) (fuel : Nat) :
    Pattern.isOpen (Pattern.ofUnescaped .plain fuel chars) = false := by
  induction fuel generalizing chars with
  | zero => rfl
  | succ fuel ih =>
    match chars with
    | [] => rfl
    | ⟨c, quoted⟩ :: rest =>
      have hrest : Pattern.isOpen (Pattern.ofUnescaped .plain fuel rest) = false :=
        ih fun d hd => h d (by simp [hd])
      have hc := h ⟨c, quoted⟩ (by simp)
      have hitem : Pattern.ofUnescaped .plain (fuel + 1) (⟨c, quoted⟩ :: rest) =
          .exactly c :: Pattern.ofUnescaped .plain fuel rest := by
        rw [Pattern.ofUnescaped.eq_def]
        simp only
        split
        all_goals simp_all [PatternChar.isLiteral]
      rw [hitem, Pattern.isOpen, List.any_cons]
      exact hrest

/-- Without a sign outside quotes a field is no pattern. -/
theorem isOpen_ofChars_eq_false {chars : List PatternChar} (h : ∀ c ∈ chars, c.isLiteral = true) :
    Pattern.isOpen (Pattern.ofChars .plain chars) = false := by
  rw [Pattern.ofChars, unescaped_eq h]
  exact isOpen_ofUnescaped_eq_false h _

/-- What is no pattern stands for itself. -/
theorem matchedTexts_of_isLiteral {chars : List PatternChar} (hplain : s.dialect = .plain)
    (h : ∀ c ∈ chars, c.isLiteral = true) : s.matchedTexts chars = [textOfChars chars] := by
  rw [Session.matchedTexts, hplain, isOpen_ofChars_eq_false h]
  rfl

/-! ### Written words -/

namespace Reading.Written

/-- The text that a word is written for. -/
def text : Written → List Char
  | bare text _ => text
  | quoted text _ => text

/-- Whether a word is written between quotes. -/
def isQuoted : Written → Bool
  | bare _ _ => false
  | quoted _ _ => true

/-- The field that a word stands for, character by character. -/
def field (w : Written) : List PatternChar :=
  w.text.map fun c => ⟨c, w.isQuoted⟩

/-- The atoms of a written word: quotes leave a mark. -/
def atoms (w : Written) : List Atom :=
  (if w.isQuoted then [.mark] else []) ++ w.text.map fun c => .char c w.isQuoted false

/-- No tilde of a word stands for a directory. -/
def hasNoTilde (w : Written) : Prop :=
  w.isQuoted = true ∨ '~' ∉ w.text

end Reading.Written

section

variable (capture : Command → Run ByteText)

/-- No directories are put into a written word. -/
theorem homesIn_written {w : Reading.Written} (hw : w.hasNoTilde) :
    s.homesIn .start true w.word = w.word := by
  cases w with
  | bare text h =>
    have htilde : '~' ∉ text := hw.resolve_left (by simp [Reading.Written.isQuoted])
    cases text with
    | nil => rfl
    | cons c text =>
      show s.homesIn .start true [.literal (String.ofList (c :: text)) false] = _
      rw [Session.homesIn, if_pos]
      · rfl
      · exact Or.inr (by simpa using htilde)
  | quoted text h => cases text <;> rfl

/-- The atoms of a piece into which nothing is put. -/
def literalAtoms : Piece → List Atom
  | .literal text quoted => text.toList.map fun c => .char c quoted false
  | .mark => [.mark]
  | _ => []

theorem pieceAtoms_written {m : Manner} {w : Reading.Written} {fuel : Nat} {piece : Piece}
    (hpiece : piece ∈ w.word) :
    pieceAtoms capture (fuel + 1) m false piece s = (.ok (literalAtoms piece), s) := by
  -- quotes leave a mark, and everything else that is written is text
  have hkind : (∃ text quoted, piece = .literal text quoted) ∨ piece = .mark := by
    cases w with
    | bare text h =>
      cases text with
      | nil => cases hpiece
      | cons c text => simp_all [Reading.Written.word, Reading.literalPieces]
    | quoted text h =>
      cases text with
      | nil => simp_all [Reading.Written.word, Reading.quotedText]
      | cons c text =>
        simp only [Reading.Written.word, Reading.quotedText, List.isEmpty_cons, Bool.false_eq_true,
          if_false, List.mem_cons, List.not_mem_nil, or_false] at hpiece
        rcases hpiece with rfl | rfl
        · exact Or.inr rfl
        · exact Or.inl ⟨_, _, rfl⟩
  rcases hkind with ⟨text, quoted, rfl⟩ | rfl
  · rw [pieceAtoms]
    rfl
  · rw [pieceAtoms]
    rfl

theorem flatMap_literalAtoms (w : Reading.Written) : w.word.flatMap literalAtoms = w.atoms := by
  cases w with
  | bare text h =>
    cases text <;>
      simp [Reading.Written.word, Reading.literalPieces, literalAtoms, Reading.Written.atoms,
        Reading.Written.isQuoted, Reading.Written.text]
  | quoted text h =>
    cases text <;>
      simp [Reading.Written.word, Reading.quotedText, literalAtoms, Reading.Written.atoms,
        Reading.Written.isQuoted, Reading.Written.text]

/-- A written word is expanded without a trace. -/
theorem wordAtoms_written {m : Manner} {w : Reading.Written} {fuel : Nat} (hm : m.tilde = .start)
    (hw : w.hasNoTilde) (hfuel : 1 < fuel) :
    wordAtoms capture fuel m false w.word s = (.ok w.atoms, s) := by
  obtain ⟨fuel, rfl⟩ : ∃ left, fuel = left + 2 := ⟨fuel - 2, by omega⟩
  rw [wordAtoms, get_bind, hm, homesIn_written hw,
    bind_of_ok (mapM_of_ok fun piece hpiece => pieceAtoms_written capture hpiece),
    ← flatMap_literalAtoms, List.flatMap_def]
  rfl

/-- Characters that divide nothing make one field. -/
theorem fieldsOfAtoms_chars (separators : Separators) (text : List Char) (quoted : Bool)
    (before : List PatternChar) :
    fieldsOfAtoms separators none (some before) (text.map fun c => .char c quoted false) =
      [before.reverse ++ text.map fun c => ⟨c, quoted⟩] := by
  induction text generalizing before with
  | nil => simp [fieldsOfAtoms]
  | cons c text ih =>
    have hstep : fieldsOfAtoms separators none (some before)
        ((c :: text).map fun c => .char c quoted false) =
          fieldsOfAtoms separators none (some (⟨c, quoted⟩ :: before))
            (text.map fun c => .char c quoted false) := rfl
    rw [hstep, ih]
    simp

/-- A written word makes one field, even if nothing is between its quotes. -/
theorem fieldsOfAtoms_written (separators : Separators) (w : Reading.Written) :
    fieldsOfAtoms separators none none w.atoms = [w.field] := by
  cases w with
  | bare text h =>
    cases text with
    -- without quotes an empty text would be no word
    | nil => simp [Reading.isBareWord] at h
    | cons c text => exact fieldsOfAtoms_chars separators text false [⟨c, false⟩]
  | quoted text h => exact fieldsOfAtoms_chars separators text true []

/-- A written word stands for the texts that its field matches. -/
theorem wordFields_written {w : Reading.Written} (hplain : s.dialect = .plain)
    (hw : w.hasNoTilde) :
    wordFields capture w.word s = (.ok (s.matchedTexts w.field), s) := by
  have hatoms : wordAtoms capture expansionFuel .fields false w.word s = (.ok w.atoms, s) :=
    wordAtoms_written capture rfl hw (by decide)
  have hfield : (do
      let atoms ← wordAtoms capture expansionFuel .fields false w.word
      let s ← get
      return (fieldsOfAtoms s.separators none none atoms).flatMap s.matchedTexts :
        Run (List ByteText)) s = (.ok (s.matchedTexts w.field), s) := by
    rw [bind_of_ok hatoms, get_bind, fieldsOfAtoms_written, List.flatMap_singleton]
    rfl
  rw [wordFields, get_bind, hplain]
  simp only [reduceCtorEq, if_false]
  rw [bind_of_ok (mapM_of_ok (g := fun _ => s.matchedTexts w.field) ?_)]
  · rw [List.map_singleton, List.flatten_singleton]
    rfl
  · intro word hword
    rw [List.mem_singleton] at hword
    rw [hword, hfield]

/-- A written word with no sign of a pattern outside quotes stands for its text. -/
theorem matchedTexts_written {w : Reading.Written} (hplain : s.dialect = .plain)
    (hw : w.isQuoted = true ∨ ∀ c ∈ w.text, c ∉ ['*', '?', '[', '\\']) :
    s.matchedTexts w.field = [String.ofList w.text] := by
  have hliteral : ∀ c ∈ w.field, c.isLiteral = true := by
    intro c hc
    obtain ⟨d, hd, rfl⟩ := List.mem_map.1 hc
    rcases hw with hquoted | hsigns
    · simp [PatternChar.isLiteral, hquoted]
    · simpa [PatternChar.isLiteral] using Or.inr (hsigns d hd)
  rw [matchedTexts_of_isLiteral hplain hliteral, textOfChars, Reading.Written.field, List.map_map]
  exact congrArg (fun text => [String.ofList text]) (List.map_id _)

/-- The words of a command stand for fields one by one. -/
theorem fieldsOf_written {words : List Reading.Written} (hplain : s.dialect = .plain)
    (hwords : ∀ w ∈ words, w.hasNoTilde) :
    fieldsOf capture (words.map Reading.Written.word) s =
      (.ok (words.flatMap fun w => s.matchedTexts w.field), s) := by
  have hfields : (words.map Reading.Written.word).mapM (wordFields capture) s =
      (.ok (words.map fun w => s.matchedTexts w.field), s) := by
    rw [List.mapM_map]
    exact mapM_of_ok fun w hw => wordFields_written capture hplain (hwords w hw)
  rw [fieldsOf, bind_of_ok hfields, List.flatMap_def]
  rfl

theorem charsOf_atoms (between : ByteText) (w : Reading.Written) :
    charsOf between w.atoms = w.field := by
  have hmark : charsOf between (if w.isQuoted then [.mark] else []) = [] := by
    split <;> rfl
  rw [charsOf] at hmark ⊢
  rw [Reading.Written.atoms, List.flatMap_append, hmark, List.nil_append, List.flatMap_map,
    Reading.Written.field, List.map_eq_flatMap]

/-- A file that takes output has the name that is written. -/
theorem targetText_written {w : Reading.Written} {descriptor : Nat} (hplain : s.dialect = .plain)
    (hw : w.hasNoTilde) :
    targetText capture ⟨descriptor, .replace, w.word⟩ s =
      (.ok (.ok (String.ofList w.text)), s) := by
  have htext : textOf capture .text w.word s = (.ok (String.ofList w.text), s) := by
    have hatoms : wordAtoms capture 1999 .text false w.word s = (.ok w.atoms, s) :=
      wordAtoms_written capture rfl hw (by decide)
    have hchars : w.field.map (·.char) = w.text := by
      rw [Reading.Written.field, List.map_map]
      exact List.map_id _
    rw [textOf, expansionFuel, wordText, bind_of_ok hatoms, get_bind, textOfAtoms, charsOf_atoms,
      hchars]
    rfl
  rw [targetText, get_bind, hplain]
  simp only
  rw [bind_of_ok htext]
  rfl

end

end DesignAtlas.Shell
