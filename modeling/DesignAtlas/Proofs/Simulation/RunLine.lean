import DesignAtlas.Proofs.Shell.LiteralWords
import DesignAtlas.Proofs.Shell.WrittenCommands
import DesignAtlas.Proofs.Source.ScanBytes
import DesignAtlas.Proofs.Text.ByteChars
import DesignAtlas.Shell.Executor
import DesignAtlas.Simulation.Command

/-!
# The line that runs a module

What a POSIX shell makes of the line that compiles a module and runs the result. Both names of files
stand between double quotes, and nothing in them is escaped.

* `readCompile`, `readSimulate`, `readTarget`: the words and the redirection that the line is meant
  to have.
* `keptInQuotes_ofText`: a name that quotes keep is kept in its bytes as well.
* `nextLine_runSource`: the shell reads just these words, and each name stands for itself.
* `nextLine_runSource_backquotes`: a name with backquotes in it does not.
-/

namespace DesignAtlas

open Shell Shell.Reading

/-! ### Names in bytes -/

theorem keptInQuotes_of_plain {front rest : List Char}
    (hfront : ∀ c ∈ front, c ∉ ['"', '$', '\x60', '\\']) (hrest : keptInQuotes rest = true) :
    keptInQuotes (front ++ rest) = true := by
  induction front with
  | nil => exact hrest
  | cons c front ih =>
    have hc := hfront c (by simp)
    have hothers := ih fun d hd => hfront d (by simp [hd])
    rw [List.cons_append, keptInQuotes_cons_iff]
    exact ⟨by simp_all, fun h => absurd h (by simp_all), hothers⟩

/-- A text that double quotes keep is kept in its bytes as well. -/
theorem keptInQuotes_bytes {text : List Char} (h : keptInQuotes text = true) :
    keptInQuotes (text.flatMap fun c => (String.utf8EncodeChar c).map ByteText.charOf) = true := by
  induction text with
  | nil => rfl
  | cons c text ih =>
    obtain ⟨hsign, hbackslash, hrest⟩ := keptInQuotes_cons_iff.1 h
    rw [List.flatMap_cons]
    by_cases hc : c = '\\'
    · -- the byte behind the backslash belongs to the character behind it
      obtain ⟨d, tail, rfl, hd, hline⟩ := hbackslash hc
      subst hc
      rw [ByteText.map_charOf_of_ascii (by decide), List.singleton_append, keptInQuotes_cons_iff]
      refine ⟨hsign, fun _ => ?_, ih hrest⟩
      obtain ⟨b, bytes, hbytes⟩ :=
        List.exists_cons_of_ne_nil (String.utf8EncodeChar_ne_nil (c := d))
      have hb : b ∈ String.utf8EncodeChar d := by simp [hbytes]
      refine ⟨ByteText.charOf b, _, by rw [List.flatMap_cons, hbytes]; rfl, ?_, ?_⟩
      · rwa [Ne, ByteText.charOf_eq_iff hb (by decide)]
      · rwa [Ne, ByteText.charOf_eq_iff hb (by decide)]
    · refine keptInQuotes_of_plain (fun d hd => ?_) (ih hrest)
      obtain ⟨b, hb, rfl⟩ := List.mem_map.1 hd
      have hsigns : ∀ sign ∈ ['"', '$', '\x60', '\\'], sign.toNat < 128 ∧ c ≠ sign := by
        simp_all
      intro hmem
      obtain ⟨hascii, hne⟩ := hsigns _ hmem
      exact hne ((ByteText.charOf_eq_iff hb hascii).1 rfl)

theorem keptInQuotes_ofText {text : String} (h : keptInQuotes text.toList = true) :
    keptInQuotes (ByteText.ofText text).toList = true := by
  rw [ByteText.toList_ofText]
  exact keptInQuotes_bytes h

/-! ### Words of the line -/

theorem isBare_of_isIdentifierChar {c : Char} (h : Source.isIdentifierChar c = true) :
    isBare c = true := by
  have hsigns : ([' ', '\t', '\n', ';', '&', '|', '(', ')', '<', '>', '\\', '\x27', '"', '$',
      '\x60'].all fun sign => !Source.isIdentifierChar sign) = true := by decide
  have hbare : isBare c = !([' ', '\t', '\n', ';', '&', '|', '(', ')', '<', '>', '\\', '\x27',
      '"', '$', '\x60'].contains c) := by
    simp only [isBare, endsWord, isBlank, List.contains_cons, List.contains_nil, Bool.not_or,
      Bool.and_assoc, Bool.not_false, Bool.and_true]
  rw [hbare, Bool.not_eq_true', ← Bool.not_eq_true, List.contains_iff_mem]
  intro hmem
  have hsign := List.all_eq_true.1 hsigns c hmem
  rw [h] at hsign
  exact Bool.noConfusion hsign

theorem isDigit_eq_false_of_isIdentifierStart {c : Char} (h : Source.isIdentifierStart c = true) :
    c.isDigit = false := by
  rw [← Bool.not_eq_true, Source.Scan.isDigit_iff]
  rcases Source.Scan.isIdentifierStart_iff.1 h with h | h | rfl
  · omega
  · omega
  · decide

/-- An identifier is a word of its own. -/
theorem isBareWord_of_isIdentifier {text : List Char} (h : Source.IsIdentifier text) :
    isBareWord text = true := by
  obtain ⟨c, rest, rfl, hstart⟩ := h.exists_cons
  have hcomment : c ≠ '#' := by
    rintro rfl
    exact absurd hstart (by decide)
  rw [isBareWord, Bool.and_eq_true, List.all_eq_true]
  exact ⟨fun d hd => isBare_of_isIdentifierChar (h.2 d hd),
    by simp [hcomment, isDigit_eq_false_of_isIdentifierStart hstart]⟩

namespace Action

/-- The word for the name of a file: its bytes between quotes. -/
def nameWord (name : String) : Word :=
  quotedText (ByteText.ofText name).toList

/-- The words of the command that compiles a module. -/
def readCompile (module : String) (settings : Settings) : List Word :=
  [Word.ofText "iverilog", Word.ofText "-s", Word.ofText module, Word.ofText "-Wall",
    Word.ofText "-o", nameWord settings.compileOutput, Word.ofText "*.v"]

/-- The words of the command that simulates what was compiled. -/
def readSimulate (settings : Settings) : List Word :=
  [Word.ofText "vvp", nameWord settings.compileOutput]

/-- The redirection to the file that takes the output of the simulation, if there is one. -/
def readTarget (settings : Settings) : List Redirection :=
  if settings.simulationOutput = "" then []
  else [⟨1, .replace, nameWord settings.simulationOutput⟩]

/-- The line that compiles a module and simulates it, as a shell without aliases starts to read
it. -/
def runSource (documents : Array Word) (alternatives : Bool) (module : String)
    (settings : Settings) : Source :=
  sourceOf .plain documents [] alternatives 1
    (ByteText.ofText (commandLine (runWords module settings .posix))).toList

variable {module : String} {settings : Settings}

/-- A bare word as it is written. -/
def bareWord (text : String) (h : isBareWord text.toList = true) : Written :=
  .bare text.toList h

/-- The name of a file as it is written. -/
def writtenName (name : String) (h : keptInQuotes name.toList = true) : Written :=
  .quoted (ByteText.ofText name).toList (keptInQuotes_ofText h)

/-- The words behind the name of the compiler, as they are written. -/
def compileWritten (hmodule : Source.IsIdentifier module.toList)
    (hcompile : keptInQuotes settings.compileOutput.toList = true) : List Written :=
  [bareWord "-s" (by decide), bareWord module (isBareWord_of_isIdentifier hmodule),
    bareWord "-Wall" (by decide), bareWord "-o" (by decide),
    writtenName settings.compileOutput hcompile, bareWord "*.v" (by decide)]

/-- The command that compiles a module, as it is written. -/
def writtenCompile (hmodule : Source.IsIdentifier module.toList)
    (hcompile : keptInQuotes settings.compileOutput.toList = true) : WrittenCommand where
  name := "iverilog".toList
  isWord := by decide
  notAssigned := by decide
  notReserved := by decide
  arguments := compileWritten hmodule hcompile
  target := none

/-- The command that simulates what was compiled, as it is written. -/
def writtenSimulate (hcompile : keptInQuotes settings.compileOutput.toList = true)
    (hsimulation : keptInQuotes settings.simulationOutput.toList = true) : WrittenCommand where
  name := "vvp".toList
  isWord := by decide
  notAssigned := by decide
  notReserved := by decide
  arguments := [writtenName settings.compileOutput hcompile]
  target :=
    if settings.simulationOutput = "" then none
    else some (writtenName settings.simulationOutput hsimulation)

theorem word_bareWord (text : String) (h : isBareWord text.toList = true) :
    (bareWord text h).word = Word.ofText text := by
  have hne : text.toList ≠ [] := by
    intro hempty
    simp [isBareWord, hempty] at h
  simp [bareWord, Written.word, literalPieces, Word.ofText, String.toList_eq_nil_iff.not.1 hne]

@[simp]
theorem word_writtenName {name : String} (h : keptInQuotes name.toList = true) :
    (writtenName name h).word = nameWord name := rfl

theorem words_writtenCompile (hmodule : Source.IsIdentifier module.toList)
    (hcompile : keptInQuotes settings.compileOutput.toList = true) :
    (writtenCompile hmodule hcompile).words = readCompile module settings := by
  have hhead : (writtenCompile hmodule hcompile).head.word = Word.ofText "iverilog" :=
    word_bareWord "iverilog" _
  have harguments : (writtenCompile hmodule hcompile).arguments =
      compileWritten hmodule hcompile := rfl
  rw [WrittenCommand.words, hhead, harguments, compileWritten]
  simp only [List.map_cons, List.map_nil, word_bareWord, word_writtenName, readCompile]

theorem words_writtenSimulate (hcompile : keptInQuotes settings.compileOutput.toList = true)
    (hsimulation : keptInQuotes settings.simulationOutput.toList = true) :
    (writtenSimulate hcompile hsimulation).words = readSimulate settings := by
  have hhead : (writtenSimulate hcompile hsimulation).head.word = Word.ofText "vvp" :=
    word_bareWord "vvp" _
  rw [WrittenCommand.words, hhead]
  simp only [writtenSimulate, List.map_cons, List.map_nil, word_writtenName, readSimulate]

theorem target_writtenSimulate (hcompile : keptInQuotes settings.compileOutput.toList = true)
    (hsimulation : keptInQuotes settings.simulationOutput.toList = true) :
    targetRedirections (writtenSimulate hcompile hsimulation).target = readTarget settings := by
  rw [writtenSimulate, readTarget]
  split <;> rfl

/-! ### Characters of the line -/

/-- The bytes of a line of words. -/
theorem toList_commandLine (first : String) (others : List String) :
    (ByteText.ofText (commandLine (first :: others))).toList =
      (ByteText.ofText first).toList ++
        others.flatMap fun word => ' ' :: (ByteText.ofText word).toList := by
  induction others generalizing first with
  | nil => rw [commandLine, String.intercalate_singleton, List.flatMap_nil, List.append_nil]
  | cons next others ih =>
    have hblank : ByteText.ofText " " = " " := ByteText.ofText_of_ascii (by decide)
    simp only [commandLine] at ih ⊢
    rw [String.intercalate_cons_cons, ByteText.ofText_append, ByteText.ofText_append,
      String.toList_append, String.toList_append, ih, hblank, List.flatMap_cons]
    simp

theorem chars_bareWord {text : String} (h : isBareWord text.toList = true)
    (hascii : (text.toList.all fun c => c.toNat < 128) = true) :
    (ByteText.ofText text).toList = (bareWord text h).chars := by
  rw [ByteText.ofText_of_ascii hascii]
  rfl

theorem chars_writtenName {name : String} (h : keptInQuotes name.toList = true) :
    (ByteText.ofText (Settings.quoted name)).toList = (writtenName name h).chars := by
  have hquote : ByteText.ofText "\"" = "\"" := ByteText.ofText_of_ascii (by decide)
  rw [Settings.quoted, ByteText.ofText_append, ByteText.ofText_append, hquote,
    String.toList_append, String.toList_append]
  rfl

/-- Words with blanks before them are written as the words behind the name of a command. -/
theorem flatMap_eq_argumentChars {words : List String} {arguments : List Written}
    (h : List.Forall₂ (fun word w => (ByteText.ofText word).toList = w.chars) words arguments) :
    (words.flatMap fun word => ' ' :: (ByteText.ofText word).toList) = argumentChars arguments := by
  induction h with
  | nil => rfl
  | cons hword hwords ih =>
    rw [List.flatMap_cons, ih, hword]
    rfl

/-- The words behind the name of the compiler. -/
def compileArguments (module : String) (settings : Settings) : List String :=
  ["-s", module, "-Wall", "-o", settings.quotedCompileOutput, "*.v"]

/-- The words behind the name of the simulator. -/
def simulateArguments (settings : Settings) : List String :=
  settings.quotedCompileOutput :: settings.quotedSimulationOutput?.elim [] fun file => [">", file]

theorem runWords_posix (module : String) (settings : Settings) :
    runWords module settings .posix =
      "iverilog" :: (compileArguments module settings ++ "&&" :: "vvp" ::
        simulateArguments settings) := by
  simp only [runWords, compileWords, simulateWords, compileArguments, simulateArguments,
    List.cons_append, List.nil_append]

theorem tailChars_writtenCompile (hmodule : Source.IsIdentifier module.toList)
    (hcompile : keptInQuotes settings.compileOutput.toList = true) :
    (compileArguments module settings).flatMap (fun word => ' ' :: (ByteText.ofText word).toList) =
      (writtenCompile hmodule hcompile).tailChars := by
  have hascii : (module.toList.all fun c => c.toNat < 128) = true :=
    List.all_eq_true.2 fun c hc =>
      decide_eq_true (Source.Scan.isAscii_isIdentifierChar c (hmodule.2 c hc))
  have hwords : List.Forall₂ (fun word w => (ByteText.ofText word).toList = Written.chars w)
      (compileArguments module settings) (compileWritten hmodule hcompile) := by
    rw [compileArguments, compileWritten]
    exact .cons (chars_bareWord _ (by decide)) <| .cons (chars_bareWord _ hascii) <|
      .cons (chars_bareWord _ (by decide)) <| .cons (chars_bareWord _ (by decide)) <|
      .cons (chars_writtenName _) <| .cons (chars_bareWord _ (by decide)) .nil
  have htail : (writtenCompile hmodule hcompile).tailChars =
      argumentChars (compileWritten hmodule hcompile) ++ targetChars none := rfl
  rw [htail, flatMap_eq_argumentChars hwords, show targetChars none = [] from rfl, List.append_nil]

theorem tailChars_writtenSimulate (hcompile : keptInQuotes settings.compileOutput.toList = true)
    (hsimulation : keptInQuotes settings.simulationOutput.toList = true) :
    (simulateArguments settings).flatMap (fun word => ' ' :: (ByteText.ofText word).toList) =
      (writtenSimulate hcompile hsimulation).tailChars := by
  have hsign : ByteText.ofText ">" = ">" := ByteText.ofText_of_ascii (by decide)
  have harguments : argumentChars (writtenSimulate hcompile hsimulation).arguments =
      ' ' :: (writtenName settings.compileOutput hcompile).chars ++ [] := rfl
  rw [simulateArguments, List.flatMap_cons, Settings.quotedCompileOutput,
    chars_writtenName hcompile, WrittenCommand.tailChars, harguments, List.append_nil,
    Settings.quotedSimulationOutput?, writtenSimulate]
  congr 1
  simp only
  split
  · rfl
  · rw [Option.elim_some, List.flatMap_cons, List.flatMap_singleton, hsign,
      chars_writtenName hsimulation]
    rfl

/-- The line is written as the two commands with the sign between them. -/
theorem text_runSource {documents : Array Word} {alternatives : Bool}
    (hmodule : Source.IsIdentifier module.toList)
    (hcompile : keptInQuotes settings.compileOutput.toList = true)
    (hsimulation : keptInQuotes settings.simulationOutput.toList = true) :
    (runSource documents alternatives module settings).text =
      bothChars (writtenCompile hmodule hcompile) (writtenSimulate hcompile hsimulation) := by
  have hlink : ByteText.ofText "&&" = "&&" := ByteText.ofText_of_ascii (by decide)
  have hcompiler : ByteText.ofText "iverilog" = "iverilog" := ByteText.ofText_of_ascii (by decide)
  have hsimulator : ByteText.ofText "vvp" = "vvp" := ByteText.ofText_of_ascii (by decide)
  simp only [runSource, sourceOf]
  rw [runWords_posix, toList_commandLine, List.flatMap_append, List.flatMap_cons,
    List.flatMap_cons, tailChars_writtenCompile hmodule hcompile,
    tailChars_writtenSimulate hcompile hsimulation, hlink, hcompiler, hsimulator, bothChars,
    WrittenCommand.chars, WrittenCommand.chars]
  have hnames : (writtenCompile hmodule hcompile).head.chars = "iverilog".toList ∧
      (writtenSimulate hcompile hsimulation).head.chars = "vvp".toList := ⟨rfl, rfl⟩
  have hsign : "&&".toList = ['&', '&'] := by decide
  rw [hnames.1, hnames.2, hsign]
  simp only [List.append_assoc, List.cons_append, List.nil_append]

/-! ### The commands that are read -/

section

variable {s : Session}

/-- Whether a text has none of the signs that mean something in a bare word: of a directory or of a
pattern. -/
def hasNoSigns (text : List Char) : Bool :=
  text.all fun c => !(['~', '*', '?', '[', '\\'].contains c)

theorem hasNoSigns_of_isIdentifier {text : List Char} (h : Source.IsIdentifier text) :
    hasNoSigns text = true := by
  have hsigns : (['~', '*', '?', '[', '\\'].all
      fun sign => !Source.isIdentifierChar sign) = true := by decide
  refine List.all_eq_true.2 fun c hc => ?_
  rw [Bool.not_eq_true', ← Bool.not_eq_true, List.contains_iff_mem]
  intro hmem
  simpa [h.2 c hc] using List.all_eq_true.1 hsigns c hmem

theorem hasNoTilde_bareWord {text : String} (h : isBareWord text.toList = true)
    (hsigns : hasNoSigns text.toList = true) : (bareWord text h).hasNoTilde :=
  .inr fun htilde => by simpa using List.all_eq_true.1 hsigns '~' htilde

/-- A bare word without signs stands for itself. -/
theorem matchedTexts_bareWord {text : String} (h : isBareWord text.toList = true)
    (hplain : s.dialect = .plain) (hsigns : hasNoSigns text.toList = true) :
    s.matchedTexts (bareWord text h).field = [text] := by
  have hpattern : ∀ c ∈ text.toList, c ∉ ['*', '?', '[', '\\'] := by
    intro c hc hmem
    simpa using absurd (List.mem_cons_of_mem '~' hmem)
      (by simpa using List.all_eq_true.1 hsigns c hc)
  rw [matchedTexts_written (w := bareWord text h) hplain (.inr hpattern)]
  exact congrArg ([·]) String.ofList_toList

/-- The name of a file stands for itself, whatever is in it. -/
theorem matchedTexts_writtenName {name : String} (h : keptInQuotes name.toList = true)
    (hplain : s.dialect = .plain) :
    s.matchedTexts (writtenName name h).field = [ByteText.ofText name] := by
  rw [matchedTexts_written (w := writtenName name h) hplain (.inl rfl)]
  exact congrArg ([·]) String.ofList_toList

variable (capture : Command → Run ByteText)

/-- The words of the first command stand for themselves, but for the pattern behind them. -/
theorem fieldsOf_readCompile (hmodule : Source.IsIdentifier module.toList)
    (hcompile : keptInQuotes settings.compileOutput.toList = true) (hplain : s.dialect = .plain) :
    fieldsOf capture (readCompile module settings) s =
      (.ok (["iverilog", "-s", module, "-Wall", "-o", ByteText.ofText settings.compileOutput] ++
        s.matchedTexts ("*.v".toList.map fun c => ⟨c, false⟩)), s) := by
  have hsigns := hasNoSigns_of_isIdentifier hmodule
  -- the pattern at the end is the one word that may match names of files
  have hread : readCompile module settings =
      (bareWord "iverilog" (by decide) :: compileWritten hmodule hcompile).map Written.word :=
    (words_writtenCompile hmodule hcompile).symm
  have htildes : ∀ w ∈ bareWord "iverilog" (by decide) :: compileWritten hmodule hcompile,
      w.hasNoTilde := by
    simp only [compileWritten, List.forall_mem_cons]
    exact ⟨.inr (by decide), .inr (by decide), hasNoTilde_bareWord _ hsigns, .inr (by decide),
      .inr (by decide), .inl rfl, .inr (by decide), by simp⟩
  rw [hread, fieldsOf_written capture hplain htildes, compileWritten]
  simp only [List.flatMap_cons, List.flatMap_nil]
  rw [matchedTexts_bareWord _ hplain (by decide), matchedTexts_bareWord _ hplain (by decide),
    matchedTexts_bareWord _ hplain hsigns, matchedTexts_bareWord _ hplain (by decide),
    matchedTexts_bareWord _ hplain (by decide), matchedTexts_writtenName hcompile hplain,
    List.append_nil]
  rfl

/-- The words of the second command stand for themselves. -/
theorem fieldsOf_readSimulate (hcompile : keptInQuotes settings.compileOutput.toList = true)
    (hplain : s.dialect = .plain) :
    fieldsOf capture (readSimulate settings) s =
      (.ok ["vvp", ByteText.ofText settings.compileOutput], s) := by
  have hread : readSimulate settings =
      [bareWord "vvp" (by decide), writtenName settings.compileOutput hcompile].map
        Written.word := by
    rw [List.map_cons, List.map_singleton, word_bareWord, word_writtenName, readSimulate]
  have htildes : ∀ w ∈ [bareWord "vvp" (by decide), writtenName settings.compileOutput hcompile],
      w.hasNoTilde := by
    simp only [List.forall_mem_cons]
    exact ⟨.inr (by decide), .inl rfl, by simp⟩
  rw [hread, fieldsOf_written capture hplain htildes, List.flatMap_cons, List.flatMap_singleton,
    matchedTexts_bareWord _ hplain (by decide), matchedTexts_writtenName hcompile hplain]
  rfl

/-- The output of the second command goes to the file of the name. -/
theorem targetText_readTarget (hsimulation : keptInQuotes settings.simulationOutput.toList = true)
    (hplain : s.dialect = .plain) {r : Redirection} (hr : r ∈ readTarget settings) :
    targetText capture r s = (.ok (.ok (ByteText.ofText settings.simulationOutput)), s) := by
  rw [readTarget] at hr
  split at hr
  · cases hr
  · rw [List.mem_singleton] at hr
    subst hr
    rw [← word_writtenName hsimulation, targetText_written capture hplain (.inl rfl)]
    exact congrArg (fun text => (Except.ok (Except.ok text), s)) String.ofList_toList

end

/-- The line is read as the two commands that it is meant to be, the second one run after success of
the first, and nothing is left. -/
def IsReadAsMeant (documents : Array Word) (alternatives : Bool) (module : String)
    (settings : Settings) : Prop :=
  ∃ (first second : Nat) (behind : Source), behind.text = [] ∧
    Reading.nextLine (runSource documents alternatives module settings) =
      .ok (some (.both (.simple first [] (readCompile module settings) [])
        (.simple second [] (readSimulate settings) (readTarget settings))), behind)

/-- Whatever a shell does to carry out commands in words, the words of the line stand for
themselves, except for the pattern, and leave the session as it is. -/
def StandForThemselves (module : String) (settings : Settings) : Prop :=
  ∀ (capture : Command → Run ByteText) (s : Session), s.dialect = .plain →
    fieldsOf capture (readCompile module settings) s =
      (.ok (["iverilog", "-s", module, "-Wall", "-o", ByteText.ofText settings.compileOutput] ++
        s.matchedTexts ("*.v".toList.map fun c => ⟨c, false⟩)), s) ∧
    fieldsOf capture (readSimulate settings) s =
      (.ok ["vvp", ByteText.ofText settings.compileOutput], s) ∧
    ∀ r ∈ readTarget settings,
      targetText capture r s = (.ok (.ok (ByteText.ofText settings.simulationOutput)), s)

/-- A shell reads the line that compiles a module and runs the result as the two commands that it is
meant to be. It carries nothing out to find the names of the files, which stand for themselves. -/
theorem nextLine_runSource {documents : Array Word} {alternatives : Bool}
    (hmodule : Source.IsIdentifier module.toList)
    (hcompile : keptInQuotes settings.compileOutput.toList = true)
    (hsimulation : keptInQuotes settings.simulationOutput.toList = true) :
    IsReadAsMeant documents alternatives module settings ∧ StandForThemselves module settings := by
  refine ⟨?_, fun capture s hplain => ⟨fieldsOf_readCompile capture hmodule hcompile hplain,
    fieldsOf_readSimulate capture hcompile hplain,
    fun r hr => targetText_readTarget capture hsimulation hplain hr⟩⟩
  obtain ⟨line, behind, hbehind, hread⟩ := nextLine_written
    (s := runSource documents alternatives module settings) ⟨rfl, rfl, rfl, rfl⟩ rfl rfl
    (text_runSource hmodule hcompile hsimulation)
  rw [WrittenCommand.read, WrittenCommand.read, words_writtenCompile, words_writtenSimulate,
    target_writtenSimulate] at hread
  exact ⟨_, line, behind, hbehind, hread⟩

/-- Blanks, operators, single quotes and stars in the names change nothing, and neither does a
backslash before a letter. -/
theorem nextLine_runSource_signs :
    let settings : Settings := ⟨"my out;*&& \\n", "o'log > é.txt"⟩
    (Source.IsIdentifier "top".toList ∧ keptInQuotes settings.compileOutput.toList = true ∧
      keptInQuotes settings.simulationOutput.toList = true) ∧
    IsReadAsMeant #[] false "top" settings ∧ StandForThemselves "top" settings :=
  ⟨by decide, nextLine_runSource (by decide) (by decide) (by decide)⟩

/-- The characters in the words of the first of two commands. -/
def firstTexts : Command → List ByteText
  | .both (.simple _ _ words _) _ => words.map Word.text
  | _ => []

/-- Backquotes in a name do: what stands between them is carried out, and its output takes their
place. -/
theorem nextLine_runSource_backquotes :
    ¬IsReadAsMeant #[] false "top" ⟨"\x60echo b\x60", ""⟩ := by
  -- the word that is read for the name holds no characters of its own
  have hread : ((Reading.nextLine (runSource #[] false "top" ⟨"\x60echo b\x60", ""⟩)).toOption.bind
      (·.1)).map firstTexts = some ["iverilog", "-s", "top", "-Wall", "-o", "", "*.v"] := by
    decide +kernel
  have hmeant : (readCompile "top" ⟨"\x60echo b\x60", ""⟩).map Word.text ≠
      ["iverilog", "-s", "top", "-Wall", "-o", "", "*.v"] := by
    decide +kernel
  rintro ⟨first, second, behind, -, hnext⟩
  rw [hnext] at hread
  exact hmeant (Option.some_inj.1 hread)

end Action

end DesignAtlas
