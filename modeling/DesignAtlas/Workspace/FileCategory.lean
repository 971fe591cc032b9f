import DesignAtlas.Text.Search

/-!
# File categories

A file in the project's directory is sorted by its name alone. The first rule that fits wins:
documents by their ending, test cases by the beginning `code`, sources by their ending, tools by
their ending or by the word `java` anywhere, waveform dumps by their ending. The endings of
sources are matched as written, as the shell's `*.v` matches them; all other rules ignore the case
of ASCII letters.
-/

namespace DesignAtlas

/-- What a file is to a project. -/
inductive FileCategory where
  /-- A design source. -/
  | source
  /-- A document. -/
  | document
  /-- A test case. -/
  | testCase
  /-- A program or script. -/
  | tool
  /-- A waveform dump. -/
  | waveform
  /-- Anything else. -/
  | other
  deriving DecidableEq, Repr

namespace FileCategory

/-- The endings of documents. -/
def documentEndings : List String :=
  [".pdf", ".md", ".doc", ".docx", ".xls", ".xlsx"]

/-- The endings of design sources. -/
def sourceEndings : List String :=
  [".v", ".vh"]

/-- The endings of programs and scripts. -/
def toolEndings : List String :=
  [".py", ".c", ".cpp", ".cc"]

/-- Whether a name has one of the endings. -/
def hasEnding (endings : List String) (name : List Char) : Bool :=
  endings.any fun ending => ending.toList.isSuffixOf name

/-- The category of a file name. -/
def ofName (name : String) : FileCategory :=
  let written := name.toList
  let lower := written.map Char.toLower
  if hasEnding documentEndings lower then document
  else if "code".toList.isPrefixOf lower then testCase
  else if hasEnding sourceEndings written then source
  else if hasEnding toolEndings lower || (Text.cut? "java".toList lower).isSome then tool
  else if hasEnding [".vcd"] lower then waveform
  else other

end FileCategory

end DesignAtlas
