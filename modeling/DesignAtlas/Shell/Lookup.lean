import DesignAtlas.Shell.Parameter

/-!
# Looking programs up

What the system and the shells find under the name of a program. A name with a slash is a path, and
another name is looked up in the directories of a search path.

* `Session.execution` is what the system starts when a file is to be executed.
* `Session.spawned` is what is started under a name.
* `interpreterLine?` is the program that the first line of a script names.
-/

namespace DesignAtlas.Shell

open Text

/-! ### Files that can be executed -/

/-- The number of bytes of a file in which its interpreter is named. -/
def headLength : Nat := 256

/-- The path of the interpreter on the first line of a script and the argument behind it, if it has
such a line. The line has to end within the first bytes, or at least the path. -/
def interpreterLine? (content : List UInt8) : Option (ByteText × Option ByteText) :=
  match content.take headLength with
  | 35 :: 33 :: rest =>
    let isGap (c : Char) : Bool := c == ' ' || c == '\t'
    let chars := rest.map ByteText.charOf
    let line := chars.takeWhile fun c => c != '\n' && c != '\x00'
    if chars[line.length]? = some '\n' then
      -- A whole line: blanks at its end do not count.
      let line := ((line.reverse.dropWhile isGap).reverse).dropWhile isGap
      let name := line.takeWhile (!isGap ·)
      let behind := (line.drop name.length).dropWhile isGap
      if name.isEmpty then none
      else
        some (String.ofList name, if behind.isEmpty then none else some (String.ofList behind))
    else
      let isCut := line.length = headLength - 2
      let text := (if isCut then line.dropLast else line).dropWhile isGap
      let name := text.takeWhile (!isGap ·)
      let behind := text.drop name.length
      if name.isEmpty || (isCut && behind.isEmpty) then none
      else
        some (String.ofList name,
          if behind.isEmpty then none else some (String.ofList (behind.dropWhile isGap)))
  | _ => none

/-- A program of the system that has been started. -/
structure Execution where
  /-- The program. -/
  program : String
  /-- The name that it is called by. -/
  name : ByteText
  /-- The arguments. -/
  arguments : List ByteText

/-- The number of files that lead from one to the next, each one the interpreter of the one before
it. -/
def maxInterpreters : Nat := 6

/-- The fault of a file that is neither a program nor a script that names its interpreter. -/
def noProgram : FileFault := .system 8

/-- What the system starts when the file at a path is to be executed. -/
def Session.execution (s : Session) :
    (depth : Nat) → (path name : ByteText) → (arguments : List ByteText) →
      Except FileFault Execution
  | 0, _, _, _ => .error .linkLoop
  | depth + 1, path, name, arguments =>
    match s.node path with
    | .error fault => .error fault
    | .ok (.program program) => .ok ⟨program, name, arguments⟩
    | .ok (.file f) =>
      if !f.mode.mayEnter then .error .denied
      else
        match interpreterLine? f.content with
        | none => .error noProgram
        | some (interpreter, option?) =>
          s.execution depth interpreter interpreter (option?.toList ++ path :: arguments)
    | .ok _ => .error .denied

/-- What starts a file that names no interpreter: the plain shell. -/
def shellExecution (path : ByteText) (arguments : List ByteText) : Execution :=
  ⟨"sh", "/bin/sh", path :: arguments⟩

/-- Whether a byte stands in no text. -/
def isBinaryByte (b : UInt8) : Bool :=
  b < 9 || (16 ≤ b && b < 32 && b != 27) || b == 127

/-- The number of bytes of a file that show whether it is a script. -/
def startLength : Nat := 128

/-- Whether a file is no script: its first line names no interpreter and is no text. -/
def isBinary (content : List UInt8) : Bool :=
  content.take 2 != [35, 33] &&
    ((content.take startLength).takeWhile (· != 10)).any isBinaryByte

/-! ### Search paths -/

/-- The path of a name in one of the directories that programs are looked up in. -/
def pathIn (directory name : ByteText) : ByteText :=
  if directory.isEmpty then name
  else if directory.endsWith "/" then directory ++ name
  else directory ++ "/" ++ name

/-- The directories that programs are looked up in where none are named. -/
def standardPath : ByteText := "/usr/local/sbin:/usr/local/bin:/usr/sbin:/usr/bin:/sbin:/bin"

/-- Whether a name is a path. -/
def isPath (name : ByteText) : Bool :=
  name.toList.contains '/'

/-- The paths that a name can stand for. -/
def candidatePaths (searchPath name : ByteText) : List ByteText :=
  if isPath name then [name]
  else (searchPath.splitOn ":").map fun directory => pathIn directory name

/-- What is started first at one of several paths. A file that is missing or denied lets the next
one be tried. -/
def Session.spawnedAmong (s : Session) (startsShell : Bool) (name : ByteText)
    (arguments : List ByteText) : (isDenied : Bool) → List ByteText → Except FileFault Execution
  | isDenied, [] => .error (if isDenied then .denied else .missing)
  | isDenied, path :: paths =>
    match s.execution maxInterpreters path name arguments with
    | .ok e => .ok e
    | .error fault =>
      if fault = noProgram ∧ startsShell then .ok (shellExecution path arguments)
      else if fault = .denied then s.spawnedAmong startsShell name arguments true paths
      else if fault = .missing ∨ fault = .notDirectory then
        s.spawnedAmong startsShell name arguments isDenied paths
      else .error fault

/-- What is started under a name. A file that names no interpreter can be left to the shell. -/
def Session.spawned (s : Session) (startsShell : Bool) (searchPath name : ByteText)
    (arguments : List ByteText) : Except FileFault Execution :=
  if isPath name then
    match s.execution maxInterpreters name name arguments with
    | .error fault =>
      if fault = noProgram ∧ startsShell then .ok (shellExecution name arguments)
      else .error fault
    | .ok e => .ok e
  else if name.isEmpty then .error .missing
  else s.spawnedAmong startsShell name arguments false (candidatePaths searchPath name)

/-! ### What shells look for -/

/-- Whether a path leads to a file that can be executed. -/
def Session.isProgram (s : Session) (path : ByteText) : Bool :=
  match s.node path with
  | .ok (.file f) => f.mode.mayEnter
  | .ok (.program _) => true
  | _ => false

/-- The path of the file that a name stands for as a program. -/
def Session.programPath? (s : Session) (searchPath name : ByteText) : Option ByteText :=
  (candidatePaths searchPath name).find? s.isProgram

/-- Why no program is found at paths: the last fault that is not about a missing file. -/
def Session.searchFault (s : Session) (paths : List ByteText) : FileFault :=
  paths.foldl (fun known path =>
    match s.node path with
    | .ok _ => .denied
    | .error fault => if fault = .missing ∨ fault = .notDirectory then known else fault) .missing

/-- What the plain shell starts at one of several paths, tried one after the other. -/
def Session.plainExecution (s : Session) (name : ByteText) (arguments : List ByteText) :
    (known : FileFault) → List ByteText → Except FileFault Execution
  | known, [] => .error known
  | known, path :: paths =>
    match s.execution maxInterpreters path name arguments with
    | .ok e => .ok e
    | .error fault =>
      let fault? : Option FileFault :=
        if fault = noProgram then
          -- The shell looks into the file before it starts another shell for it.
          match s.content path with
          | .error fault => some fault
          | .ok content => if isBinary content then some noProgram else none
        else some fault
      match fault? with
      | none => .ok (shellExecution path arguments)
      | some fault =>
        let known := if fault = .missing ∨ fault = .notDirectory then known else fault
        s.plainExecution name arguments known paths

/-- The status of a program that cannot be started, as the plain shell counts. -/
def plainStartStatus (fault : FileFault) : Nat :=
  if [FileFault.missing, .notDirectory, .linkLoop, .nameTooLong].contains fault then 127 else 126

/-- The wording of a fault of a program that cannot be started, as the plain shell says it. -/
def plainStartReason (fault : FileFault) : ByteText :=
  if fault = .missing ∨ fault = .notDirectory then "not found" else fault.reason

/-- The first path of a name where something stands that is no directory. -/
def Session.filePath? (s : Session) (searchPath name : ByteText) : Option ByteText :=
  (candidatePaths searchPath name).find? fun path =>
    match s.node path with
    | .ok (.directory _) => false
    | .ok _ => true
    | .error _ => false

/-! ### Scripts -/

/-- The text of a script. The shell skips the byte that ends texts. -/
def scriptText (content : List UInt8) : List Char :=
  (content.filter (· != 0)).map ByteText.charOf

end DesignAtlas.Shell
