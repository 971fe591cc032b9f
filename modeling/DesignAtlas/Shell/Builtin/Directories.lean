import DesignAtlas.Shell.Builtin.Basic

/-!
# Builtin utilities for directories

How a shell goes to another directory and says where it is. The path that it was reached by is kept,
so going up leads back the same way.

* `logicalPath` is a path without single and double dots, below the one that it starts from.
-/

namespace DesignAtlas.Shell

open Text

/-- The parts of a path without empty ones and dots. Two dots take the part before them away. -/
def plainParts (parts : List ByteText) : List ByteText :=
  (parts.foldl (fun kept part =>
    if part.isEmpty || part == "." then kept
    else if part == ".." then kept.tail
    else part :: kept) []).reverse

/-- The path that a path leads to from a directory, without dots. Two slashes in front stay what
they are, and more of them are one. -/
def logicalPath (directory path : ByteText) : ByteText :=
  let isAbsolute := path.toList.head? == some '/'
  let start := (if isAbsolute then path else directory).toList.takeWhile (· == '/')
  let whole := if isAbsolute then path else directory ++ "/" ++ path
  (if start.length = 2 then "//" else "/") ++ "/".intercalate (plainParts (whole.splitOn "/"))

/-- Whether a path does not start from the directories that are searched. -/
def isAnchored (path : ByteText) : Bool :=
  path.toList.head? == some '/' || path == "." || path == ".." || path.startsWith "./" ||
    path.startsWith "../"

/-- Keep the path of the directory and the one before it in variables. -/
def showDirectory (shown : ByteText) : Run Unit := do
  let old := (← get).shownDirectory
  modify fun s => { s with shownDirectory := shown }
  let keep (name : String) (text : ByteText) : Run Unit := do
    assign name text
    modify fun s => s.modifyVariable name fun v => { v with exported := true }
  keep "OLDPWD" old
  keep "PWD" shown

/-- Go to the directory that a path leads to, if there is one. -/
def enterDirectory (physical : Bool) (path : ByteText) : Run (Except FileFault Unit) := do
  let s ← get
  let logical := logicalPath s.shownDirectory path
  -- The rich dialect wants every directory on the way to be there.
  let reached : Except FileFault Address := do
    let address ← s.locate (if physical then path else logical)
    if s.dialect = .rich then let _ ← s.locate path
    return address
  match reached with
  | .error fault => return .error fault
  | .ok address =>
    match s.disk.node? address with
    | some (.directory mode) =>
      if mode.mayEnter = false then return .error .denied
      set { s with directory := address }
      showDirectory (if physical then .ofText (Disk.shownPath address) else logical)
      return .ok ()
    | _ => return .error .notDirectory

/-- The directories that a relative path is looked up in, with the paths they lead to. -/
def searchedPaths (s : Session) (path : ByteText) : List (ByteText × Bool) :=
  let directories := (s.textOf "CDPATH").splitOn ":"
  directories.map fun directory =>
    if directory.isEmpty then (path, false)
    else ((directory ++ if directory.endsWith "/" then path else "/" ++ path), true)

/-- Go to another directory. -/
def changeDirectory : Utility := fun arguments => do
  let s ← get
  let (options, operands) ← optionsOf (if s.dialect = .plain then "LP" else "LPe@") arguments
  let physical := (options.getLast?.map (·.1)) == some 'P'
  if s.dialect = .rich ∧ 1 < operands.length then
    return ← refuse 1 "too many arguments"
  if s.dialect = .rich ∧ operands = [] ∧ (s.assigned? "HOME").isNone then
    return ← refuse 1 "HOME not set"
  if s.dialect = .rich ∧ operands = ["-"] ∧ (s.assigned? "OLDPWD").isNone then
    return ← refuse 1 "OLDPWD not set"
  let isBack := operands.head? == some "-"
  let wanted :=
    match operands with
    | [] => s.textOf "HOME"
    | path :: _ => if isBack then s.textOf "OLDPWD" else path
  let goal := if wanted.isEmpty then "." else wanted
  let found? :=
    if isAnchored goal then none
    else (searchedPaths s goal).find? fun candidate => s.isDirectory candidate.1
  let (path, isFound) := found?.getD (goal, false)
  match ← enterDirectory physical path with
  | .ok () =>
    if isBack || isFound then write 1 ((← get).shownDirectory ++ "\n")
    return 0
  | .error fault =>
    match s.dialect with
    | .plain => refuse 2 ("can't cd to " ++ wanted)
    | .rich => refuse 1 (wanted ++ ": " ++ fault.reason)

/-- Write the directory. -/
def printDirectory : Utility := fun arguments => do
  let (options, _) ← optionsOf "LP" arguments
  let s ← get
  let physical := (options.getLast?.map (·.1)) == some 'P'
  write 1 ((if physical then .ofText (Disk.shownPath s.directory) else s.shownDirectory) ++ "\n")
  return 0

end DesignAtlas.Shell
