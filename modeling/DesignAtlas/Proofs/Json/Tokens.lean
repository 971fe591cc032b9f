import DesignAtlas.Json.Writer
import DesignAtlas.Proofs.Json.Reader
import DesignAtlas.Proofs.Text.Readers
import Mathlib.Tactic.SplitIfs

/-!
# Reading written strings and numbers

The text of a string ends with its own closing quote, so it is read back from in front of any text.
The digits of a number are read back from in front of a text that cannot carry them on.

* `takes_character`: every escape is undone.
* `takes_string`: strings are read as what they were written for.
* `takes_numeral`: so are numbers.
-/

namespace DesignAtlas.Json

open Text Reader

variable {rest : List Char}

/-! ### Strings -/

theorem hexValue?_hexDigit : ∀ n < 16, Toml.hexValue? (hexDigit n) = some n := by decide

theorem takes_hexDigits_succ {count value digit point : Nat} {c : Char} {written : List Char}
    (hc : Toml.hexValue? c = some digit)
    (hwritten : Takes (Toml.hexDigits count (value * 16 + digit)) written point rest) :
    Takes (Toml.hexDigits (count + 1) value) (c :: written) point rest := by
  have hfirst : Takes (satisfying fun c => (Toml.hexValue? c).isSome) [c] c (written ++ rest) :=
    takes_satisfying (by rw [hc, Option.isSome_some]) _
  have hrest : Takes (Toml.hexDigits count (value * 16 + (Toml.hexValue? c).getD 0)) written
      point rest := by
    rw [hc]
    exact hwritten
  exact hfirst.bind hrest

/-- The four digits of a control are those of its code point. -/
theorem takes_hexDigits_control {n : Nat} (hn : n < 0x20) :
    Takes (Toml.hexDigits 4 0) ['0', '0', hexDigit (n / 16), hexDigit (n % 16)] n rest := by
  have hhigh : Toml.hexValue? (hexDigit (n / 16)) = some (n / 16) :=
    hexValue?_hexDigit _ (by omega)
  have hlow : Toml.hexValue? (hexDigit (n % 16)) = some (n % 16) :=
    hexValue?_hexDigit _ (Nat.mod_lt n (by decide))
  have hzero : Toml.hexValue? '0' = some 0 := by decide
  have hvalue : (((0 * 16 + 0) * 16 + 0) * 16 + n / 16) * 16 + n % 16 = n := by omega
  refine takes_hexDigits_succ hzero (takes_hexDigits_succ hzero (takes_hexDigits_succ hhigh ?_))
  refine takes_hexDigits_succ hlow ?_
  rw [hvalue]
  exact takes_pure n rest

theorem takes_codePoint_control {c : Char} (hc : c.toNat < 0x20) :
    Takes codePoint ['0', '0', hexDigit (c.toNat / 16), hexDigit (c.toNat % 16)] c rest := by
  have hhigh : ¬(0xD800 ≤ c.toNat ∧ c.toNat < 0xDC00) := by omega
  have hdigits : Takes (Toml.hexDigits 4 0)
      ['0', '0', hexDigit (c.toNat / 16), hexDigit (c.toNat % 16)] c.toNat rest :=
    takes_hexDigits_control hc
  have hvalid : c.toNat.isValidChar := c.valid
  refine hdigits.bind_nil ?_
  rw [if_neg hhigh, if_pos hvalid, Char.ofNat_toNat]
  exact takes_pure c rest

/-- The three forms of a written character: a letter that stands for it, the digits of a control,
and itself. -/
theorem escapeChar_cases (c : Char) :
    (∃ letter, escapeChar c = ['\\', letter] ∧ letter ≠ 'u' ∧ escaped? letter = some c ∧
      0x20 ≤ letter.toNat) ∨
    (c.toNat < 0x20 ∧
      escapeChar c = ['\\', 'u', '0', '0', hexDigit (c.toNat / 16), hexDigit (c.toNat % 16)]) ∨
    (isPlain c = true ∧ escapeChar c = [c]) := by
  unfold escapeChar
  split_ifs with hquote hbackslash hb hf hn hr ht hcontrol
  case pos => exact .inl ⟨'"', rfl, by decide, by rw [hquote]; rfl, by decide⟩
  case pos => exact .inl ⟨'\\', rfl, by decide, by rw [hbackslash]; rfl, by decide⟩
  case pos => exact .inl ⟨'b', rfl, by decide, by rw [hb]; rfl, by decide⟩
  case pos => exact .inl ⟨'f', rfl, by decide, by rw [hf]; rfl, by decide⟩
  case pos => exact .inl ⟨'n', rfl, by decide, by rw [hn]; rfl, by decide⟩
  case pos => exact .inl ⟨'r', rfl, by decide, by rw [hr]; rfl, by decide⟩
  case pos => exact .inl ⟨'t', rfl, by decide, by rw [ht]; rfl, by decide⟩
  case pos => exact .inr (.inl ⟨hcontrol, rfl⟩)
  case neg =>
    have hplain : isPlain c = true := by
      rw [isPlain, Bool.and_eq_true, Bool.and_eq_true, decide_eq_true_iff, bne_iff_ne, bne_iff_ne]
      exact ⟨⟨Nat.not_lt.1 hcontrol, hquote⟩, hbackslash⟩
    exact .inr (.inr ⟨hplain, rfl⟩)

/-- A character is read as itself, in whatever form it is written. -/
theorem takes_character (c : Char) (rest : List Char) :
    Takes character (escapeChar c) c rest := by
  rcases escapeChar_cases c with ⟨letter, hwritten, hletter, hmeant, -⟩ | ⟨hcontrol, hwritten⟩ |
    ⟨hplain, hwritten⟩
  · have hescape : Takes escape [letter] c rest := by
      refine Takes.bind_nil (takes_satisfying rfl rest) ?_
      rw [if_neg hletter, hmeant]
      exact takes_pure c rest
    rw [hwritten]
    exact ((takes_exactly '\\' _).seqRight hescape).orElse
  · have hescape : Takes escape
        (['u'] ++ ['0', '0', hexDigit (c.toNat / 16), hexDigit (c.toNat % 16)]) c rest :=
      (takes_satisfying rfl _).bind (takes_codePoint_control hcontrol)
    rw [hwritten]
    exact ((takes_exactly '\\' _).seqRight hescape).orElse
  · -- what stands for itself does not start an escape
    have hne : c ≠ '\\' := by
      rintro rfl
      exact absurd hplain (by decide)
    rw [hwritten]
    refine takes_orElse_of_none ?_ (takes_satisfying hplain rest)
    refine run_seqRight_of_none (run_exactly_of_ne fun d hd => ?_)
    cases hd
    exact hne

theorem escapeChar_ne_nil (c : Char) : escapeChar c ≠ [] := by
  rcases escapeChar_cases c with ⟨letter, hwritten, -⟩ | ⟨-, hwritten⟩ | ⟨-, hwritten⟩ <;>
    (rw [hwritten]; exact List.cons_ne_nil _ _)

/-- No control is left in a written character. -/
theorem le_toNat_of_mem_escapeChar {c d : Char} (hd : d ∈ escapeChar c) : 0x20 ≤ d.toNat := by
  rcases escapeChar_cases c with ⟨letter, hwritten, -, -, hletter⟩ | ⟨hcontrol, hwritten⟩ |
    ⟨hplain, hwritten⟩
  · rw [hwritten, List.mem_cons, List.mem_singleton] at hd
    rcases hd with rfl | rfl
    · decide
    · exact hletter
  · have hdigit : ∀ n < 16, 0x20 ≤ (hexDigit n).toNat := by decide
    have hhigh := hdigit (c.toNat / 16) (by omega)
    have hlow := hdigit (c.toNat % 16) (by omega)
    simp only [hwritten, List.mem_cons, List.not_mem_nil, or_false] at hd
    rcases hd with rfl | rfl | rfl | rfl | rfl | rfl
    · decide
    · decide
    · decide
    · decide
    · exact hhigh
    · exact hlow
  · rw [isPlain, Bool.and_eq_true, Bool.and_eq_true, decide_eq_true_iff] at hplain
    rw [hwritten, List.mem_singleton] at hd
    exact hd ▸ hplain.1.1

/-- No character of a string starts with the closing quote. -/
theorem run_character_quote (rest : List Char) : character.run ('"' :: rest) = none := by
  have hescape : (exactly '\\').run ('"' :: rest) = none := by
    refine run_exactly_of_ne fun d hd => ?_
    cases hd
    decide
  rw [character, run_orElse_of_none (run_seqRight_of_none hescape)]
  refine run_satisfying_of_not fun d hd => ?_
  cases hd
  decide

/-- A string is read as what it was written for, whatever characters it is made of. -/
theorem takes_string (s : String) (rest : List Char) : Takes string (quoted s) s rest := by
  -- anything may stand behind a character, and the closing quote stands behind the last one
  have hcharacters : Takes (many character) (s.toList.flatMap escapeChar) (s.toList.map id)
      (['"'] ++ rest) :=
    takes_many (fun _ => True) s.toList (fun c _ behind _ => takes_character c behind)
      (fun c _ => escapeChar_ne_nil c) (fun _ _ _ => trivial) trivial (run_character_quote rest)
  have hquotes : Takes (exactly '"' *> many character <* exactly '"') (quoted s)
      (s.toList.map id) rest :=
    ((takes_exactly '"' _).seqRight hcharacters).seqLeft (takes_exactly '"' rest)
  have hstring : Takes string (quoted s) (String.ofList (s.toList.map id)) rest :=
    hquotes.bind_pure
  rwa [List.map_id, String.ofList_toList] at hstring

/-! ### Numbers -/

/-- Whether a character could carry a number on. -/
def isNumeralChar (c : Char) : Bool :=
  c.isDigit || c == '.' || c == 'e' || c == 'E'

/-- A text that cannot carry a number on. -/
def EndsNumeral (text : List Char) : Prop :=
  ∀ c ∈ text.head?, isNumeralChar c = false

theorem EndsNumeral.ne {c d : Char} (hrest : EndsNumeral rest) (hc : c ∈ rest.head?)
    (hd : isNumeralChar d = true) : c ≠ d := by
  rintro rfl
  exact Bool.false_ne_true ((hrest c hc).symm.trans hd)

/-- The decimal digits of a positive number do not start with a zero. -/
theorem exists_toDigits_of_pos {n : Nat} (hn : 0 < n) :
    ∃ first others, Nat.toDigits 10 n = first :: others ∧ first ≠ '0' := by
  induction n using Nat.strongRecOn with
  | _ n ih =>
    rcases Nat.lt_or_ge n 10 with hlt | hge
    · have hdigit : ∀ n < 10, 0 < n → Nat.digitChar n ≠ '0' := by decide
      exact ⟨n.digitChar, [], Nat.toDigits_of_lt_base hlt, hdigit n hlt hn⟩
    · obtain ⟨first, others, hdigits, hfirst⟩ :=
        ih (n / 10) (Nat.div_lt_self hn (by decide)) (Nat.div_pos hge (by decide))
      refine ⟨first, others ++ [(n % 10).digitChar], ?_, hfirst⟩
      rw [Nat.toDigits_of_base_le (by decide) hge, hdigits, List.cons_append]

theorem exists_toDigits (n : Nat) :
    ∃ first others, Nat.toDigits 10 n = first :: others ∧ first.isDigit = true := by
  obtain ⟨first, others, hdigits⟩ := List.exists_cons_of_ne_nil (Nat.toDigits_ne_nil (b := 10))
  exact ⟨first, others, hdigits, Nat.isDigit_of_mem_toDigits (b := 10) (n := n) (by decide)
    (by decide) (hdigits ▸ List.mem_cons_self)⟩

theorem takes_whole (n : Nat) (hrest : EndsNumeral rest) :
    Takes whole (Nat.toDigits 10 n) n rest := by
  -- zero is the one number that starts with a zero
  rcases Nat.eq_zero_or_pos n with rfl | hn
  · exact ((takes_exactly '0' _).seqRight (takes_pure 0 rest)).orElse
  · obtain ⟨first, others, hdigits, hfirst⟩ := exists_toDigits_of_pos hn
    have hall : ∀ c ∈ first :: others, c.isDigit = true := fun c hc =>
      Nat.isDigit_of_mem_toDigits (b := 10) (n := n) (by decide) (by decide) (hdigits ▸ hc)
    have hstop : ∀ c ∈ rest.head?, c.isDigit = false := by
      intro c hc
      have hnumeral := hrest c hc
      simp only [isNumeralChar, Bool.or_eq_false_iff] at hnumeral
      exact hnumeral.1.1.1
    have hvalue : digitsValue (first :: others) = n := by
      rw [digitsValue, ← hdigits, Nat.ofDigitChars_ten_toDigits]
    have hspan : Takes (span Char.isDigit) others others rest :=
      takes_span (fun c hc => hall c (List.mem_cons_of_mem _ hc)) hstop
    rw [hdigits]
    refine takes_orElse_of_none ?_ ?_
    · refine run_seqRight_of_none (run_exactly_of_ne fun d hd => ?_)
      cases hd
      exact hfirst
    · have hsatisfied : (first.isDigit && first != '0') = true := by
        rw [hall first List.mem_cons_self, bne_iff_ne.2 hfirst, Bool.true_and]
      rw [← hvalue]
      exact (takes_satisfying hsatisfied _).bind hspan.bind_pure

/-- The number without sign, fraction and exponent. -/
def Numeral.ofNat (n : Nat) : Numeral :=
  ⟨false, n, [], 0⟩

theorem takes_numeral (n : Nat) (hrest : EndsNumeral rest) :
    Takes numeral (Nat.toDigits 10 n) (.ofNat n) rest := by
  obtain ⟨first, others, hdigits, hfirst⟩ := exists_toDigits n
  have hsign : (exactly '-').run (Nat.toDigits 10 n ++ rest) = none := by
    rw [hdigits]
    refine run_exactly_of_ne fun d hd => ?_
    cases hd
    rintro rfl
    exact absurd hfirst (by decide)
  have hpoint : fraction.run rest = none :=
    run_seqRight_of_none (run_exactly_of_ne fun d hd => hrest.ne hd (by decide))
  have hpower : exponent.run rest = none := by
    refine run_bind_of_none (run_satisfying_of_not fun d hd => ?_)
    rw [Bool.or_eq_false_iff, beq_eq_false_iff_ne, beq_eq_false_iff_ne]
    exact ⟨hrest.ne hd (by decide), hrest.ne hd (by decide)⟩
  -- of the four parts only the digits in front of the point are there
  show Takes numeral ([] ++ Nat.toDigits 10 n) (.ofNat n) rest
  refine Takes.bind (takes_optional_of_none hsign) (Takes.bind_nil (takes_whole n hrest) ?_)
  exact Takes.bind_nil (takes_optional_of_none hpoint) (takes_optional_of_none hpower).bind_pure

end DesignAtlas.Json
