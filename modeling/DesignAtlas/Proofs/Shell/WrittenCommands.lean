import DesignAtlas.Proofs.Shell.WrittenTokens
import DesignAtlas.Shell.Reading.Commands

/-!
# Commands as they are written

How a POSIX shell reads a line of two commands with `&&` between them, each a name with words behind
it and perhaps a file that takes the output.

* `pipeline_written`: a written command is read as the simple command of its words.
* `nextLine_written`: the line is read as two simple commands, the second one run after success of
  the first, and nothing is left.
-/

namespace DesignAtlas.Shell

/-- A source at which a reader starts anew: of a plain shell without aliases, with no token put back
and no document to be read. -/
structure Source.IsFresh (s : Source) : Prop where
  /-- The dialect is the plain one. -/
  plain : s.dialect = .plain
  /-- No word stands for another text. -/
  aliases : s.aliases = []
  /-- No token was put back. -/
  pushed : s.pushed = none
  /-- No document has been asked for. -/
  pending : s.pending = []

theorem Source.IsFresh.skipped {s : Source} (h : s.IsFresh) (count : Nat) :
    (s.skipped count).IsFresh :=
  ⟨h.plain, h.aliases, h.pushed, h.pending⟩

namespace Reading

open P

/-- A reader that has fuel enough gets the next token. -/
def Gives (limit : Nat) (e : Expecting) (s : Source) (t : Token) (behind : Source) : Prop :=
  ∀ (commands : P Command) (fuel : Nat), limit < fuel →
    next commands e fuel s = .ok (t, behind)

/-- The next token can be read from the text. -/
def Reads (limit : Nat) (s : Source) (t : Token) (behind : Source) : Prop :=
  ∀ (commands : P Command) (fuel : Nat), limit ≤ fuel → fresh commands fuel s = .ok (t, behind)

variable {commands : P Command} {limit fuel : Nat} {e : Expecting} {s s' : Source} {t : Token}

theorem gives_putting (h : s.IsFresh) (ht : Stands e t) : Gives 0 e (s.putting t) t s := by
  intro commands fuel hfuel
  obtain ⟨fuel, rfl⟩ := Nat.exists_eq_add_one_of_ne_zero (Nat.ne_of_gt hfuel)
  exact next_putting h.plain h.aliases h.pushed ht

theorem Reads.gives (h : Reads limit s t s') (hs : s.IsFresh) (hs' : s'.IsFresh)
    (ht : Stands e t) : Gives limit e s t s' := by
  intro commands fuel hfuel
  obtain ⟨fuel, rfl⟩ := Nat.exists_eq_add_one_of_ne_zero (Nat.ne_of_gt (Nat.zero_lt_of_lt hfuel))
  exact next_fresh hs.pushed (h commands fuel (Nat.le_of_lt_succ hfuel)) hs'.plain hs'.aliases
    hs'.pushed ht

theorem stands_word (w : Word) {e : Expecting} (h : e.reserved = false) : Stands e (.word w) := by
  simp [Stands, h]

theorem stands_link (e : Expecting) (ht : t ∈ [.operator .both, .ending]) : Stands e t := by
  simp only [List.mem_cons, List.not_mem_nil, or_false] at ht
  rcases ht with rfl | rfl <;> trivial

/-- Behind a blank a written word is given. -/
theorem gives_written {w : Written} {rest : List Char} (hs : s.IsFresh)
    (htext : s.text = ' ' :: w.chars ++ rest) (hrest : EndsHere rest)
    (ht : Stands e (.word w.word)) :
    Gives (' ' :: w.chars).length e s (.word w.word) (s.skipped (' ' :: w.chars).length) := by
  refine Reads.gives (fun commands fuel hfuel => ?_) hs (hs.skipped _) ht
  exact fresh_blank_written hs.plain htext hrest hfuel

/-! ### Parts of commands -/

/-- The characters of the words behind the name of a command. -/
def argumentChars (arguments : List Written) : List Char :=
  arguments.flatMap fun w => ' ' :: w.chars

/-- The characters of the sign and of the file that takes the output. -/
def targetChars (target : Option Written) : List Char :=
  target.elim [] fun w => [' ', '>'] ++ (' ' :: w.chars)

/-- The redirection to the file that takes the output. -/
def targetRedirections (target : Option Written) : List Redirection :=
  target.toList.map fun w => ⟨1, .replace, w.word⟩

theorem endsHere_cons {c : Char} {rest : List Char} (hc : endsWord c = true) :
    EndsHere (c :: rest) := by
  intro d hd
  cases hd
  exact hc

theorem endsHere_argumentChars {arguments : List Written} {rest : List Char} (h : EndsHere rest) :
    EndsHere (argumentChars arguments ++ rest) := by
  cases arguments with
  | nil => exact h
  | cons w arguments => exact endsHere_cons (by decide)

theorem endsHere_targetChars {target : Option Written} {rest : List Char} (h : EndsHere rest) :
    EndsHere (targetChars target ++ rest) := by
  cases target with
  | none => exact h
  | some w => exact endsHere_cons (by decide)

/-- What a simple command expects behind some of its parts. -/
def expectedBehind (parts : SimpleParts) : Expecting :=
  if parts.words.isEmpty then .name else .anything

theorem reaching_plain (before after : SimpleParts) (line : Nat) :
    before.reaching .plain line after = after := rfl

/-- A word that is no assignment is added to the words of a command. -/
theorem simpleParts_word {parts : SimpleParts} {w : Word} (hplain : s'.dialect = .plain)
    (hword : parts.words = [] → Word.assignment? .plain w = none)
    (hnext : next commands (expectedBehind parts) fuel s = .ok (.word w, s')) :
    simpleParts commands (fuel + 1) parts s = simpleParts commands fuel (parts.addWord w) s' := by
  rw [expectedBehind] at hnext
  rw [simpleParts.eq_def]
  simp only
  rw [bind_of_ok hnext]
  simp only
  rw [get_bind, hplain, reaching_plain]
  refine congrFun (congrArg (simpleParts commands fuel) ?_) s'
  split
  · simp_all
  · rfl

/-- The words behind the name of a command are added to its parts. -/
theorem simpleParts_arguments {parts : SimpleParts} {arguments : List Written} {rest : List Char}
    (hs : s.IsFresh) (htext : s.text = argumentChars arguments ++ rest) (hrest : EndsHere rest)
    (hwords : parts.words ≠ []) (hfuel : (argumentChars arguments).length < fuel) :
    simpleParts commands (fuel + arguments.length) parts s =
      simpleParts commands fuel
        { parts with words := parts.words ++ arguments.map Written.word }
        (s.skipped (argumentChars arguments).length) := by
  induction arguments generalizing parts s with
  | nil =>
    rw [List.map_nil, List.append_nil]
    rfl
  | cons w arguments ih =>
    have hchars : argumentChars (w :: arguments) = ' ' :: w.chars ++ argumentChars arguments := rfl
    rw [hchars, List.length_append] at hfuel
    rw [hchars, List.append_assoc] at htext
    have hexpected : expectedBehind parts = .anything := by simp [expectedBehind, hwords]
    have hnext := gives_written (e := .anything) hs htext (endsHere_argumentChars hrest)
      (stands_word _ rfl) commands (fuel + arguments.length) (by omega)
    have hbehind : (s.skipped (' ' :: w.chars).length).text = argumentChars arguments ++ rest := by
      rw [Source.text_skipped, htext, List.drop_left]
    rw [List.length_cons, ← Nat.add_assoc,
      simpleParts_word (hs.skipped _).plain (absurd · hwords) (hexpected ▸ hnext),
      ih (hs.skipped _) hbehind (by simp [SimpleParts.addWord]) (by omega),
      Source.skipped_skipped, ← List.length_append, ← hchars]
    simp [SimpleParts.addWord]

/-- The file that takes the output is added to the parts of a command. -/
theorem simpleParts_target {parts : SimpleParts} {target : Option Written} {rest : List Char}
    (hs : s.IsFresh) (htext : s.text = targetChars target ++ rest) (hrest : EndsHere rest)
    (hwords : parts.words ≠ []) (hfuel : (targetChars target).length < fuel) :
    simpleParts commands (fuel + target.toList.length) parts s =
      simpleParts commands fuel
        { parts with redirections := parts.redirections ++ targetRedirections target }
        (s.skipped (targetChars target).length) := by
  cases target with
  | none =>
    rw [show targetRedirections none = [] from rfl, List.append_nil]
    rfl
  | some w =>
    have hchars : targetChars (some w) = [' ', '>'] ++ (' ' :: w.chars) := rfl
    rw [hchars, List.length_append] at hfuel
    rw [hchars, List.append_assoc] at htext
    have hbehind : (s.skipped 2).text = ' ' :: w.chars ++ rest := by
      rw [Source.text_skipped, htext]
      rfl
    -- the sign is read first, then the file behind its own blank
    have hsign : next commands .anything fuel s =
        .ok (.redirection none .replace, s.skipped 2) := by
      have hreads : Reads 1 s (.redirection none .replace) (s.skipped 2) := by
        intro commands fuel hfuel
        obtain ⟨fuel, rfl⟩ := Nat.exists_eq_add_one_of_ne_zero (Nat.ne_of_gt hfuel)
        rw [fresh_blank (c := '>') htext (by decide),
          fresh_into (s := s.skipped 1) hs.plain (by rw [Source.text_skipped, htext]; rfl),
          Source.skipped_skipped]
      exact hreads.gives hs (hs.skipped _) trivial commands fuel (by simp at hfuel; omega)
    have hfile := gives_written (e := .anything) (hs.skipped 2) hbehind hrest (stands_word _ rfl)
      commands fuel (by omega)
    have hread : redirection commands fuel (.redirection none .replace) (s.skipped 2) =
        .ok (⟨1, .replace, w.word⟩, s.skipped (targetChars (some w)).length) := by
      rw [redirection, bind_of_ok hfile, hchars, List.length_append, ← Source.skipped_skipped]
      simp only [reduceCtorEq, or_self, false_and, and_false, if_false]
      rfl
    have hexpected : expectedBehind parts = .anything := by simp [expectedBehind, hwords]
    rw [expectedBehind] at hexpected
    rw [show (some w).toList.length = 1 from rfl, simpleParts.eq_def]
    simp only [hexpected]
    rw [bind_of_ok hsign]
    simp only
    rw [bind_of_ok hread, get_bind, Source.dialect_skipped, hs.plain]
    rfl

/-- A token that is no part of a simple command ends it. -/
theorem simpleParts_end {parts : SimpleParts} (hwords : parts.words ≠ [])
    (ht : t ∈ [.operator .both, .ending])
    (hnext : next commands .anything fuel s = .ok (t, s')) :
    simpleParts commands (fuel + 1) parts s = .ok (.ok parts, s'.putting t) := by
  have hexpected : expectedBehind parts = .anything := by simp [expectedBehind, hwords]
  rw [expectedBehind] at hexpected
  rw [simpleParts.eq_def]
  simp only [hexpected]
  rw [bind_of_ok hnext]
  simp only [List.mem_cons, List.not_mem_nil, or_false] at ht
  rcases ht with rfl | rfl <;> rfl

/-! ### Commands -/

/-- A command as it is written: its name, the words behind it and perhaps the file that takes the
output. -/
structure WrittenCommand where
  /-- The name. -/
  name : List Char
  /-- The name is a word without quotes. -/
  isWord : isBareWord name = true
  /-- The name is no assignment. -/
  notAssigned : Word.assignment? .plain (literalPieces false name) = none
  /-- The name is not reserved. -/
  notReserved : String.ofList name ∉ reservedWords .plain
  /-- The words behind the name. -/
  arguments : List Written
  /-- The file that takes the output. -/
  target : Option Written

namespace WrittenCommand

/-- The name as a word. -/
def head (c : WrittenCommand) : Written :=
  .bare c.name c.isWord

/-- The characters behind the name. -/
def tailChars (c : WrittenCommand) : List Char :=
  argumentChars c.arguments ++ targetChars c.target

/-- The characters of the command. -/
def chars (c : WrittenCommand) : List Char :=
  c.head.chars ++ c.tailChars

/-- The words of the command. -/
def words (c : WrittenCommand) : List Word :=
  c.head.word :: c.arguments.map Written.word

/-- The command that is read, with the line that it counts for. -/
def read (c : WrittenCommand) (line : Nat) : Command :=
  .simple line [] c.words (targetRedirections c.target)

theorem stands_head (c : WrittenCommand) (e : Expecting) : Stands e (.word c.head.word) := by
  have hword : Word.bareText? c.head.word = some (String.ofList c.name) := by
    have hne : c.name ≠ [] := by
      intro h
      simpa [isBareWord, h] using c.isWord
    simp [head, Written.word, literalPieces, hne, Word.bareText?]
  rintro - text htext
  rw [hword] at htext
  cases htext
  exact c.notReserved

theorem endsHere_tailChars (c : WrittenCommand) {rest : List Char} (h : EndsHere rest) :
    EndsHere (c.tailChars ++ rest) := by
  rw [tailChars, List.append_assoc]
  exact endsHere_argumentChars (endsHere_targetChars h)

/-- The number of words and files is bounded by the length of the text. -/
theorem count_le_length (c : WrittenCommand) :
    c.arguments.length + c.target.toList.length ≤ c.tailChars.length := by
  have harguments : c.arguments.length ≤ (argumentChars c.arguments).length := by
    induction c.arguments with
    | nil => exact le_rfl
    | cons w arguments ih =>
      simp only [argumentChars, List.flatMap_cons, List.length_append, List.length_cons] at ih ⊢
      omega
  have htarget : c.target.toList.length ≤ (targetChars c.target).length := by
    cases c.target with
    | none => exact le_rfl
    | some w => simp [targetChars]
  rw [tailChars, List.length_append]
  exact Nat.add_le_add harguments htarget

end WrittenCommand

/-- Behind its name a written command is read up to the token that ends it. -/
theorem simple_written {c : WrittenCommand} {rest : List Char} {line : Nat} (hs : s.IsFresh)
    (htext : s.text = c.tailChars ++ rest) (hrest : EndsHere rest)
    (ht : t ∈ [.operator .both, .ending])
    (hnext : Gives limit .anything (s.skipped c.tailChars.length) t s')
    (hfuel : 2 * c.tailChars.length + limit + 3 < fuel) :
    simple fuel line (s.putting (.word c.head.word)) = .ok (c.read line, s'.putting t) := by
  have hcount := c.count_le_length
  have hlength : c.tailChars.length =
      (argumentChars c.arguments).length + (targetChars c.target).length := List.length_append
  -- one round for the name, for every word, for the file and for the token that ends the command
  obtain ⟨left, rfl⟩ : ∃ left, fuel =
      left + 1 + c.target.toList.length + c.arguments.length + 1 + 1 :=
    ⟨fuel - (c.target.toList.length + c.arguments.length + 3), by omega⟩
  rw [WrittenCommand.tailChars, List.append_assoc] at htext
  have hbehind : (s.skipped (argumentChars c.arguments).length).text =
      targetChars c.target ++ rest := by
    rw [Source.text_skipped, htext, List.drop_left]
  have hparts : simpleParts (branch (left + 1 + c.target.toList.length + c.arguments.length + 1))
      (left + 1 + c.target.toList.length + c.arguments.length + 1) ⟨[], [], [], line⟩
      (s.putting (.word c.head.word)) =
        .ok (.ok ⟨[], c.words, targetRedirections c.target, line⟩, s'.putting t) := by
    rw [simpleParts_word hs.plain (fun _ => c.notAssigned)
        (gives_putting hs (c.stands_head _) _ _ (by omega)),
      simpleParts_arguments hs htext (endsHere_targetChars hrest) (by simp [SimpleParts.addWord])
        (by omega),
      simpleParts_target (hs.skipped _) hbehind hrest (by simp [SimpleParts.addWord]) (by omega),
      Source.skipped_skipped, ← hlength]
    exact simpleParts_end (by simp [SimpleParts.addWord]) ht (hnext _ _ (by omega))
  rw [simple]
  simp only
  rw [bind_of_ok hparts]
  rfl

/-- The fuel with which a written command is read, where its end takes fuel as well. -/
def WrittenCommand.cost (c : WrittenCommand) (limit : Nat) : Nat :=
  2 * c.tailChars.length + limit + 5

/-- What neither hands its output on nor is followed by more words is a pipeline of its own. -/
theorem stages_single {first : Command} (hs : s.IsFresh) (ht : t ∈ [.operator .both, .ending])
    (hfuel : 2 < fuel) :
    stages fuel first (s.putting t) = .ok (first, s.putting t) := by
  obtain ⟨fuel, rfl⟩ : ∃ left, fuel = left + 2 := ⟨fuel - 2, by omega⟩
  have hlist : stageList (fuel + 1) first (s.putting t) = .ok ([first], s.putting t) := by
    rw [stageList, bind_of_ok (gives_putting hs (stands_link _ ht) _ _ (by omega))]
    simp only [List.mem_cons, List.not_mem_nil, or_false] at ht
    rcases ht with rfl | rfl <;> rfl
  rw [stages, bind_of_ok hlist]
  rfl

/-- A written command is read as the simple command of its words. -/
theorem pipeline_written {c : WrittenCommand} {source : Source} {rest : List Char} {size : Nat}
    (hname : Gives size e source (.word c.head.word) s) (hs : s.IsFresh)
    (htext : s.text = c.tailChars ++ rest) (hrest : EndsHere rest)
    (ht : t ∈ [.operator .both, .ending])
    (hnext : Gives limit .anything (s.skipped c.tailChars.length) t s') (hs' : s'.IsFresh)
    (hfuel : size + c.cost limit < fuel) :
    pipeline fuel e source = .ok (c.read s.line, s'.putting t) := by
  rw [WrittenCommand.cost] at hfuel
  obtain ⟨fuel, rfl⟩ : ∃ left, fuel = left + 2 := ⟨fuel - 2, by omega⟩
  have hcommand : command (fuel + 1) .anything (s.putting (.word c.head.word)) =
      .ok (c.read s.line, s'.putting t) := by
    rw [command]
    simp only
    rw [bind_of_ok (gives_putting hs (stands_word _ rfl) _ _ (by omega)), get_bind]
    simp only
    rw [putBack_bind]
    exact simple_written hs htext hrest ht hnext (by omega)
  rw [pipeline, bind_of_ok (hname _ _ (by omega))]
  simp only
  rw [putBack_bind, bind_of_ok hcommand]
  exact stages_single hs' ht (by omega)

/-! ### Lines of two commands -/

/-- The characters of a line of two commands. -/
def bothChars (first second : WrittenCommand) : List Char :=
  first.chars ++ ([' ', '&', '&', ' '] ++ second.chars)

/-- Behind the first command stands the sign that links the second one to it. -/
theorem gives_both {rest : List Char} (hs : s.IsFresh)
    (htext : s.text = ' ' :: '&' :: '&' :: rest) :
    Gives 1 .anything s (.operator .both) (s.skipped 3) := by
  have hreads : Reads 1 s (.operator .both) (s.skipped 3) := by
    intro commands fuel hfuel
    obtain ⟨fuel, rfl⟩ := Nat.exists_eq_add_one_of_ne_zero (Nat.ne_of_gt hfuel)
    rw [fresh_blank (c := '&') htext (by decide),
      fresh_both (s := s.skipped 1) hs.plain (by rw [Source.text_skipped, htext]; rfl),
      Source.skipped_skipped]
  exact hreads.gives hs (hs.skipped _) trivial

theorem gives_ending (hs : s.IsFresh) (htext : s.text = []) :
    Gives 0 .anything s .ending s :=
  Reads.gives (fun _ _ _ => fresh_ending htext) hs hs trivial

theorem readDocuments_eq (hs : s.IsFresh) : readDocuments commands fuel s = .ok ((), s) := by
  have hpending : { s with pending := [] } = s := by
    have := hs.pending
    cases s
    simp_all
  show (readDocuments commands fuel) s = _
  rw [readDocuments, get_bind, hs.pending]
  show Except.ok ((), { s with pending := [] }) = _
  rw [hpending]

/-- The last command of a line is read up to its end. -/
theorem pipeline_last {c : WrittenCommand} (hs : s.IsFresh) (htext : s.text = ' ' :: c.chars)
    (hfuel : 2 * s.text.length + 8 < fuel) :
    ∃ (line : Nat) (behind : Source), behind.IsFresh ∧ behind.text = [] ∧
      pipeline fuel .command s = .ok (c.read line, behind.putting .ending) := by
  rw [WrittenCommand.chars, ← List.cons_append] at htext
  have hlength := congrArg List.length htext
  rw [List.length_append] at hlength
  have hrest : EndsHere c.tailChars := by
    have hend : EndsHere (c.tailChars ++ []) := c.endsHere_tailChars (by simp [EndsHere])
    rwa [List.append_nil] at hend
  have hname := gives_written (e := .command) hs htext hrest (c.stands_head _)
  set named := s.skipped (' ' :: c.head.chars).length with hnamed
  have htail : named.text = c.tailChars ++ [] := by
    rw [hnamed, Source.text_skipped, htext, List.drop_left, List.append_nil]
  have hbehind : (named.skipped c.tailChars.length).text = [] := by
    rw [Source.text_skipped, htail, List.drop_left]
  have hfresh := (hs.skipped (' ' :: c.head.chars).length).skipped c.tailChars.length
  refine ⟨named.line, _, hfresh, hbehind, pipeline_written hname (hs.skipped _) htail
    (by simp [EndsHere]) (by simp) (gives_ending hfresh hbehind) hfresh ?_⟩
  rw [WrittenCommand.cost]
  omega

theorem linked_ending {first : Command} (hs : s.IsFresh) (hfuel : 1 < fuel) :
    linked fuel first (s.putting .ending) = .ok (first, s.putting .ending) := by
  obtain ⟨fuel, rfl⟩ : ∃ left, fuel = left + 1 := ⟨fuel - 1, by omega⟩
  rw [linked, bind_of_ok (gives_putting hs (stands_link _ (by simp)) _ _ (by omega))]
  rfl

/-- Two commands with the sign between them are read as a second command that is run after success
of the first one. -/
theorem andOr_written {first second : WrittenCommand} (hs : s.IsFresh)
    (htext : s.text = first.tailChars ++ ([' ', '&', '&', ' '] ++ second.chars))
    (hfuel : 2 * s.text.length + 12 < fuel) :
    ∃ (line : Nat) (behind : Source), behind.IsFresh ∧ behind.text = [] ∧
      andOr fuel (s.putting (.word first.head.word)) =
        .ok (.both (first.read s.line) (second.read line), behind.putting .ending) := by
  obtain ⟨fuel, rfl⟩ : ∃ left, fuel = left + 2 := ⟨fuel - 2, by omega⟩
  have hlength := congrArg List.length htext
  rw [List.length_append] at hlength
  -- the first command leaves the sign that ends it put back, and the rest of the line behind it
  have hfirst : pipeline (fuel + 1) .anything (s.putting (.word first.head.word)) =
      .ok (first.read s.line, ((s.skipped first.tailChars.length).skipped 3).putting
        (.operator .both)) :=
    pipeline_written (gives_putting hs (first.stands_head .anything)) hs htext
      (endsHere_cons (by decide)) (t := .operator .both) (by simp)
      (gives_both (hs.skipped _) (by rw [Source.text_skipped, htext, List.drop_left]; rfl))
      ((hs.skipped _).skipped _) (by rw [WrittenCommand.cost]; omega)
  set linking := (s.skipped first.tailChars.length).skipped 3 with hlinking
  have hlinkingFresh : linking.IsFresh := (hs.skipped _).skipped _
  have hlinkingText : linking.text = ' ' :: second.chars := by
    rw [hlinking, Source.text_skipped, Source.text_skipped, htext, List.drop_left]
    rfl
  have hlinkingLength := congrArg List.length hlinkingText
  simp only [List.length_append, List.length_cons, List.length_nil] at hlength hlinkingLength
  obtain ⟨line, behind, hfresh, hbehind, hsecond⟩ := pipeline_last hlinkingFresh hlinkingText
    (show _ < fuel by omega)
  refine ⟨line, behind, hfresh, hbehind, ?_⟩
  rw [andOr, bind_of_ok hfirst, linked,
    bind_of_ok (gives_putting hlinkingFresh (stands_link _ (by simp)) _ _ (by omega))]
  simp only
  rw [bind_of_ok hsecond]
  exact linked_ending hfresh (by omega)

/-- A line of two commands is read as these commands, the second one run after success of the first.
Nothing is left. -/
theorem nextLine_written {first second : WrittenCommand} (hs : s.IsFresh)
    (hreplacing : s.replacing = []) (hreplaceable : s.replaceable = none)
    (htext : s.text = bothChars first second) :
    ∃ (line : Nat) (behind : Source), behind.text = [] ∧
      nextLine s =
        .ok (some (.both (first.read (s.skipped first.name.length).line) (second.read line)),
          behind) := by
  -- a line starts with nothing put back, and so does this source
  have hstart :
      { s with pushed := none, pending := [], replacing := [], replaceable := none } = s := by
    have := hs.pushed
    have := hs.pending
    cases s
    simp_all
  rw [bothChars, WrittenCommand.chars, List.append_assoc] at htext
  have hrest : EndsHere (first.tailChars ++ ([' ', '&', '&', ' '] ++ second.chars)) :=
    first.endsHere_tailChars (endsHere_cons (by decide))
  have hlength := congrArg List.length htext
  rw [List.length_append] at hlength
  have hname : Gives first.head.chars.length.succ .commandHere s (.word first.head.word)
      (s.skipped first.head.chars.length) := by
    refine Reads.gives (fun commands fuel hfuel => ?_) hs (hs.skipped _) (first.stands_head _)
    exact fresh_written hs.plain htext hrest hfuel
  set named := s.skipped first.head.chars.length with hnamed
  have hnamedText : named.text = first.tailChars ++ ([' ', '&', '&', ' '] ++ second.chars) := by
    rw [hnamed, Source.text_skipped, htext, List.drop_left]
  have hnamedLength := congrArg List.length hnamedText
  have hfuelFor : fuelFor s = 16 * (s.text.length + 64) := by
    simp [fuelFor, hs.aliases, Number.total]
  obtain ⟨fuel, hfuel⟩ : ∃ left, fuelFor s = left + 1 := ⟨fuelFor s - 1, by omega⟩
  obtain ⟨line, behind, hfresh, hbehind, hread⟩ := andOr_written (hs.skipped _) hnamedText
    (show _ < fuel by rw [← hnamed]; omega)
  refine ⟨line, behind.putting .ending, hbehind, ?_⟩
  rw [nextLine, hstart, hfuel, list]
  simp only [if_true]
  rw [bind_of_ok (hname _ _ (by omega))]
  simp only [reduceCtorEq, false_and, or_self, if_false]
  rw [putBack_bind, bind_of_ok hread,
    bind_of_ok (gives_putting hfresh (stands_link _ (by simp)) _ _ (by omega))]
  simp only
  rw [bind_of_ok (readDocuments_eq hfresh)]
  rfl

end Reading

end DesignAtlas.Shell
