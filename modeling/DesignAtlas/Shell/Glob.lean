import DesignAtlas.Shell.Field
import DesignAtlas.Shell.Session

/-!
# Names of files

A field that is a pattern stands for the files whose paths have its form. A name with a dot in front
has to be asked for with a dot.

* `matchedTexts` are the texts that a field stands for.
-/

namespace DesignAtlas.Shell

open Text

/-- The parts of a field between its slashes. -/
def fieldSegments : List PatternChar → List (List PatternChar)
  | [] => [[]]
  | c :: rest =>
    if c.char = '/' then [] :: fieldSegments rest
    else
      match fieldSegments rest with
      | [] => [[c]]
      | first :: others => (c :: first) :: others

/-- Whether a pattern asks for a dot in front. -/
def Pattern.startsWithDot : Pattern → Bool
  | .exactly '.' :: _ => true
  | _ => false

/-- The names in the directory that a path leads to, in bytes. The plain dialect counts the
directory itself and the one above it among them. -/
def Session.namesIn (s : Session) (path : ByteText) : List ByteText :=
  match s.locate (if path.isEmpty then "." else path) with
  | .error _ => []
  | .ok address =>
    match s.disk.node? address with
    | some (.directory mode) =>
      if mode.mayRead then
        (if s.dialect = .plain then [".", ".."] else []) ++
          (s.disk.inside address).map fun known => ByteText.ofText known.1
      else []
    | _ => []

/-- The names in a directory that a pattern stands for. -/
def Session.namesMatching (s : Session) (directory : ByteText) (pattern : Pattern) :
    List ByteText :=
  (s.namesIn directory).filter fun name =>
    let isShown := name.toList.head? != some '.' || pattern.startsWithDot ||
      (s.hasFeature "dotglob" && name != "." && name != "..")
    isShown && pattern.matchesText name.toList

/-- The paths of all directories below a path, itself included, that a double star stands for. -/
def Session.directoriesBelow (s : Session) : (fuel : Nat) → ByteText → List ByteText
  | 0, path => [path]
  | fuel + 1, path =>
    let inner := (s.namesIn path).filter fun name =>
      name.toList.head? != some '.' &&
        (s.entryAt (path ++ name) matches some (.directory _))
    path :: inner.flatMap fun name => s.directoriesBelow fuel (path ++ name ++ "/")

/-- The paths below given ones that the segments of a pattern stand for. -/
def Session.pathsMatching (s : Session) (starts : List ByteText) :
    List (List PatternChar) → List ByteText
  | [] => starts
  | segment :: rest =>
    let pattern := Pattern.ofChars s.dialect segment
    let literal := textOfChars (Pattern.unescaped segment)
    let isDeep := s.hasFeature "globstar" && textOfChars segment == "**"
    match rest with
    | [] =>
      starts.flatMap fun start =>
        if isDeep then
          (s.directoriesBelow 100 start).flatMap fun path =>
            (if path.isEmpty then [] else [path]) ++ (s.namesMatching path [.many]).filterMap
              fun name =>
                if s.entryAt (path ++ name) matches some (.directory _) then none
                else some (path ++ name)
        else if pattern.isOpen then (s.namesMatching start pattern).map (start ++ ·)
        else if (s.entryAt (start ++ literal)).isSome then [start ++ literal]
        else []
    | rest =>
      let found := starts.flatMap fun start =>
        if isDeep then s.directoriesBelow 100 start
        else if pattern.isOpen then (s.namesMatching start pattern).map (start ++ · ++ "/")
        else [start ++ literal ++ "/"]
      s.pathsMatching found rest

/-- The texts that a field stands for: the files that it matches, or itself if there are none. -/
def Session.matchedTexts (s : Session) (field : List PatternChar) : List ByteText :=
  let literal := textOfChars field
  if (Pattern.ofChars s.dialect field).isOpen && !s.hasOption 'f' then
    let found := (s.pathsMatching [""] (fieldSegments field)).mergeSort fun a b => decide (a ≤ b)
    if found.isEmpty && !s.hasFeature "nullglob" then [literal] else found
  else [literal]

end DesignAtlas.Shell
