import DesignAtlas.Shell.Builtin.State
import DesignAtlas.Shell.Tool.Calendar
import DesignAtlas.Shell.Tool.Place

/-!
# Tools for files

Tools that copy, move and remove files and directories, make links, and set permissions and times.

* `copyFiles`, `moveFiles` and `removeFiles` work on files and whole directories.
* `makeDirectories`, `removeDirectories` and `makeLinks` change directories.
* `changeModes` and `touchFiles` change files.
-/

namespace DesignAtlas.Shell.Tools

/-! ### Questions and targets -/

/-- Read a line of the input. What follows is left there. -/
def readAnswer : Run ByteText := do
  match (← get).unread 0 with
  | .error _ => return ""
  | .ok bytes =>
    let line := bytes.takeWhile (· != 10)
    modify fun s => s.consume 0 (min bytes.length (line.length + 1))
    return .ofBytes line

/-- Ask a question if it is wanted, and find out whether the answer is yes. -/
def mayGoOn (c : Call) (asks : Bool) (question : ByteText) : Run Bool := do
  if !asks then return true
  write 2 (c.name ++ ": " ++ question)
  return (← readAnswer).toList.head?.any fun answer => answer == 'y' || answer == 'Y'

/-- A path inside a directory. -/
def inDirectory (directory name : ByteText) : ByteText :=
  if directory.endsWith "/" then directory ++ name else directory ++ "/" ++ name

/-- The sources and goals that operands name. The last operand is a goal of its own or a directory
for all sources. -/
def withGoals (c : Call) (o : FoundOptions) (work : List (ByteText × ByteText) → Run Nat) :
    Run Nat := do
  let s ← get
  let into (directory : ByteText) (sources : List ByteText) : List (ByteText × ByteText) :=
    sources.map fun source => (source, inDirectory directory (lastPart source))
  let target (goal : ByteText) : Option ByteText :=
    match s.node goal with
    | .ok (.directory _) => none
    | .ok _ => some ("target " ++ quotedName goal ++ ": Not a directory")
    | .error fault => some ("target " ++ quotedName goal ++ ": " ++ fault.reason)
  match o.value? 't', o.operands with
  | _, [] => c.misused 1 "missing file operand"
  | some directory, sources =>
    match target directory with
    | some message => c.fail 1 message
    | none => work (into directory sources)
  | none, [only] => c.misused 1 ("missing destination file operand after " ++ quotedName only)
  | none, [source, goal] =>
    if s.isDirectory goal && !o.has 'T' then work (into goal [source])
    else work [(source, goal)]
  | none, operands =>
    let goal := operands.getLast?.getD ""
    if o.has 'T' then c.misused 1 ("extra operand " ++ quotedName (operands.getD 2 ""))
    else
      match target goal with
      | some message => c.fail 1 message
      | none => work (into goal operands.dropLast)

/-- Do some work for each of several items, and find out whether all of it was fine. -/
def allFine {α : Type} (items : List α) (work : α → Run Bool) : Run Bool := do
  let mut fine := true
  for item in items do
    if !(← work item) then fine := false
  return fine

/-! ### Copies -/

/-- How files are copied. -/
structure Copying where
  /-- Whether directories are copied with what is inside. -/
  isRecursive : Bool
  /-- Whether links are copied and not what they lead to. -/
  keepsLinks : Bool
  /-- Whether modes and times are copied as well. -/
  keepsModes : Bool
  /-- Whether files that cannot be written are replaced. -/
  forces : Bool
  /-- Whether a question is asked before a file is written anew. -/
  asks : Bool
  /-- Whether files that are there are left alone. -/
  spares : Bool
  /-- Whether newer files are left alone. -/
  updates : Bool
  /-- Whether every copy is reported. -/
  reports : Bool
  /-- Whether symbolic links are made in the place of copies. -/
  linksOnly : Bool
  /-- Whether further names are made in the place of copies. -/
  namesOnly : Bool

/-- Copy the content of a file to a goal. -/
def copyContent (c : Call) (o : Copying) (source goal : ByteText) (node : DiskNode) :
    Run Bool := do
  let wrong (text : ByteText) : Run Bool := do
    c.say text
    return false
  let s ← get
  if o.linksOnly then
    match s.makeLink source goal with
    | .ok s =>
      set s
      return true
    | .error fault =>
      return ← wrong ("cannot create symbolic link " ++ quotedName goal ++ " to " ++
        quotedName source ++ ": " ++ fault.reason)
  match node, s.slot goal with
  | .link target, .ok (address, _) =>
    if (s.disk.node? address).isSome && !o.forces then
      return ← wrong ("cannot create symbolic link " ++ quotedName goal ++ ": File exists")
    match (s.withDisk (s.disk.remove address)).makeLink (.ofText target) goal with
    | .ok s =>
      set s
      return true
    | .error fault =>
      wrong ("cannot create symbolic link " ++ quotedName goal ++ ": " ++ fault.reason)
  | _, .ok (address, _) =>
    if o.namesOnly then
      if (s.disk.node? address).isSome then
        return ← wrong ("cannot create hard link " ++ quotedName goal ++ " to " ++
          quotedName source ++ ": File exists")
      set (s.withDisk (s.disk.put address node))
      return true
    match s.openStream .read source with
    | .error fault =>
      wrong ("cannot open " ++ quotedName source ++ " for reading: " ++ fault.reason)
    | .ok _ =>
      let content := ((← readFile source).toOption.getD "")
      let s ← get
      let isNew := (s.node? goal).isNone
      if isNew && (s.entryAt goal).isSome then
        return ← wrong ("not writing through dangling symlink " ++ quotedName goal)
      let isClosed := o.forces && (match s.openStream .append goal with
        | .error .denied => (s.changeFault? address).isNone
        | _ => false)
      if isClosed then modify fun s => s.withDisk (s.disk.remove address)
      match ← putContent goal false content with
      | .error fault =>
        let reason := if fault matches .directory then "Not a directory" else fault.reason
        wrong ("cannot create regular file " ++ quotedName goal ++ ": " ++ reason)
      | .ok () =>
        let s ← get
        let mode := (modeOf node).bits
        let mode : Mode := if o.keepsModes then ⟨mode⟩ else Mode.without ⟨mode % 512⟩ s.mask
        match s.locate goal with
        | .ok address =>
          if isNew || isClosed || o.keepsModes then set (s.withDisk (s.disk.setMode address mode))
          if o.keepsModes then
            modify fun s => s.withDisk (s.disk.changeFile address fun f =>
              { f with modified := timeOf node })
        | .error _ => pure ()
        return true
  | _, .error fault =>
    wrong ("cannot create regular file " ++ quotedName goal ++ ": " ++ fault.reason)

/-- Copy a file or a directory. The first source and goal are known for complaints. -/
def copyEntry (c : Call) (o : Copying) (top : ByteText × ByteText) :
    (fuel : Nat) → (source goal : ByteText) → Run Bool
  | 0, _, _ => return false
  | fuel + 1, source, goal => do
    let wrong (text : ByteText) : Run Bool := do
      c.say text
      return false
    let s ← get
    let found := if o.keepsLinks then
        match s.slot source with
        | .ok (address, hasSlash) =>
          match s.disk.node? address with
          | some (.link _) => if hasSlash then s.node source else s.disk.node? address |>.elim
              (.error .missing) .ok
          | some node => if hasSlash && !(node matches .directory _) then .error .notDirectory
              else .ok node
          | none => .error .missing
        | .error fault => .error fault
      else s.node source
    match found with
    | .error fault => wrong ("cannot stat " ++ quotedName source ++ ": " ++ fault.reason)
    | .ok node =>
      let isDirectory := node matches .directory _
      if isDirectory && !o.isRecursive then
        return ← wrong ("-r not specified; omitting directory " ++ quotedName source)
      let known? := s.node? goal
      let same := known?.isSome && (s.locate source).toOption == (s.locate goal).toOption
      let isSameFile :=
        match s.node? source, known? with
        | some (.file f), some (.file g) => f.identity == g.identity
        | _, _ => same
      if isSameFile && !(isDirectory && (s.locate goal).toOption != (s.locate source).toOption) then
        if o.spares then return true
        return ← wrong (quotedName source ++ " and " ++ quotedName goal ++ " are the same file")
      match known? with
      | some known =>
        let meetsDirectory := known matches .directory _
        if isDirectory && !meetsDirectory then
          return ← wrong ("cannot overwrite non-directory " ++ quotedName goal ++
            " with directory " ++ quotedName source)
        if !isDirectory && meetsDirectory then
          return ← wrong ("cannot overwrite directory " ++ quotedName goal ++
            " with non-directory")
        if !isDirectory then
          if o.spares then return true
          if o.updates && timeOf node ≤ timeOf known then return true
          if !(← mayGoOn c o.asks ("overwrite " ++ quotedName goal ++ "? ")) then return true
      | none => pure ()
      if o.reports && !(isDirectory && known?.isSome) then
        write 1 (quotedName source ++ " -> " ++ quotedName goal ++ "\n")
      if !isDirectory then copyContent c o source goal node
      else
        let s ← get
        let made :=
          if known?.isSome then .ok s
          else s.makeDirectory goal (Mode.without ⟨(modeOf node).bits ||| 0o700⟩ s.mask)
        match made with
        | .error fault =>
          wrong ("cannot create directory " ++ quotedName goal ++ ": " ++ fault.reason)
        | .ok s =>
          set s
          match s.locate source, s.locate goal with
          | .ok origin, .ok target =>
            let names := s.namesInside origin
            let mayRead := match s.disk.node? origin with
              | some (.directory mode) => mode.mayRead
              | _ => false
            if !mayRead then
              return ← wrong ("cannot access " ++ quotedName source ++ ": Permission denied")
            let fine ← allFine names fun name => do
              if origin ++ [name.toText] == target then
                c.say ("cannot copy a directory, " ++ quotedName top.1 ++ ", into itself, " ++
                  quotedName top.2)
                return false
              else copyEntry c o top fuel (inDirectory source name) (inDirectory goal name)
            if known?.isNone then
              let mode := Mode.without (modeOf node) (if o.keepsModes then 0 else s.mask)
              modify fun s => s.withDisk (s.disk.setMode target mode)
            return fine
          | _, _ => return false

/-- The greatest depth of directories that tools go down to. -/
def maxDepth : Nat := 1000

/-- Copy files and directories. -/
def copyFiles : Tool := fun c =>
  c.withOptions 1 "abdfHilLnprst:uvxPRS:TZ"
      [("archive", 'a', .never), ("backup", 'b', .perhaps), ("force", 'f', .never),
        ("interactive", 'i', .never), ("link", 'l', .never), ("dereference", 'L', .never),
        ("no-clobber", 'n', .never), ("no-dereference", 'P', .never), ("recursive", 'r', .never),
        ("preserve", 'p', .perhaps), ("symbolic-link", 's', .never),
        ("target-directory", 't', .always), ("no-target-directory", 'T', .never),
        ("update", 'u', .perhaps), ("verbose", 'v', .never)] fun o =>
    withGoals c o fun pairs => do
      let isRecursive := o.has 'r' || o.has 'R' || o.has 'a'
      let copying : Copying :=
        { isRecursive := isRecursive,
          keepsLinks := !o.has 'L' && (isRecursive || o.has 'd' || o.has 'P'),
          keepsModes := o.has 'p' || o.has 'a', forces := o.has 'f',
          asks := o.last? ['i', 'n'] == some 'i', spares := o.last? ['i', 'n'] == some 'n',
          updates := o.has 'u', reports := o.has 'v', linksOnly := o.has 's',
          namesOnly := o.has 'l' }
      return statusOf (← allFine pairs.zipIdx fun ((source, goal), i) => do
        let earlier := pairs.take i
        let isThere := ((← get).node? goal).isSome
        if earlier.contains (source, goal) then
          let kind := if (← get).isDirectory source then "directory " else "file "
          c.say ("warning: source " ++ kind ++ quotedName source ++ " specified more than once")
          return true
        else if earlier.any (·.2 == goal) && isThere && !(← get).isDirectory goal then
          c.say ("will not overwrite just-created " ++ quotedName goal ++ " with " ++
            quotedName source)
          return false
        else copyEntry c copying (source, goal) maxDepth source goal)

/-! ### Moves -/

/-- Move a file or a directory. -/
def moveEntry (c : Call) (o : FoundOptions) (source goal : ByteText) : Run Bool := do
  let wrong (text : ByteText) : Run Bool := do
    c.say text
    return false
  let s ← get
  let refused (fault : FileFault) : Run Bool :=
    wrong ("cannot move " ++ quotedName source ++ " to " ++ quotedName goal ++ ": " ++
      fault.reason)
  match s.slot source with
  | .error fault => wrong ("cannot stat " ++ quotedName source ++ ": " ++ fault.reason)
  | .ok (start, hasSlash) =>
    match s.disk.node? start with
    | none => wrong ("cannot stat " ++ quotedName source ++ ": No such file or directory")
    | some node =>
      let isDirectory := node matches .directory _
      if hasSlash && !isDirectory then
        return ← wrong ("cannot stat " ++ quotedName source ++ ": Not a directory")
      match s.slot goal with
      | .error fault => refused fault
      | .ok (address, endsInSlash) =>
        let known? := s.disk.node? address
        let isSame := address == start || (match node, known? with
          | .file f, some (.file g) => f.identity == g.identity
          | _, _ => false)
        if isSame then
          if o.last? ['f', 'i', 'n'] == some 'n' then return true
          return ← wrong (quotedName source ++ " and " ++ quotedName goal ++
            " are the same file")
        if start.isPrefixOf address then
          return ← wrong ("cannot move " ++ quotedName source ++
            " to a subdirectory of itself, " ++ quotedName goal)
        match known? with
        | some known =>
          let meetsDirectory := known matches .directory _
          if o.last? ['f', 'i', 'n'] == some 'n' then return true
          if o.has 'u' && timeOf node ≤ timeOf known then return true
          if isDirectory && !meetsDirectory then
            return ← wrong ("cannot overwrite non-directory " ++ quotedName goal ++
              " with directory " ++ quotedName source)
          if !isDirectory && meetsDirectory then
            return ← wrong ("cannot overwrite directory " ++ quotedName goal ++
              " with non-directory")
          let asks := o.last? ['f', 'i', 'n'] == some 'i'
          if !(← mayGoOn c asks ("overwrite " ++ quotedName goal ++ "? ")) then return true
          if meetsDirectory && !(s.disk.inside address).isEmpty then
            return ← refused .notEmpty
        | none =>
          if endsInSlash && !isDirectory then return ← refused .notDirectory
        let s ← get
        match s.changeFault? start, s.changeFault? address with
        | some fault, _ => refused fault
        | _, some fault => refused fault
        | none, none =>
          set (s.withDisk (s.disk.rename start address))
          if o.has 'v' then
            write 1 ("renamed " ++ quotedName source ++ " -> " ++ quotedName goal ++ "\n")
          return true

/-- Move files and directories. -/
def moveFiles : Tool := fun c =>
  c.withOptions 1 "bfint:uvS:TZ"
      [("backup", 'b', .perhaps), ("force", 'f', .never), ("interactive", 'i', .never),
        ("no-clobber", 'n', .never), ("target-directory", 't', .always),
        ("no-target-directory", 'T', .never), ("update", 'u', .perhaps),
        ("verbose", 'v', .never)] fun o =>
    withGoals c o fun pairs => do
      return statusOf (← allFine pairs fun (source, goal) => moveEntry c o source goal)

/-! ### Removals -/

/-- The wording of the kind of a node. -/
def kindName : DiskNode → ByteText
  | .file f => if f.content.isEmpty then "regular empty file" else "regular file"
  | .directory _ => "directory"
  | .link _ => "symbolic link"
  | .device _ => "character special file"
  | .program _ => "regular file"

/-- Remove a file or a directory. -/
def removeEntry (c : Call) (o : FoundOptions) : (fuel : Nat) → (path : ByteText) → Run Bool
  | 0, _ => return false
  | fuel + 1, path => do
    let s ← get
    let wrong (fault : FileFault) : Run Bool := do
      c.say ("cannot remove " ++ quotedName path ++ ": " ++ fault.reason)
      return false
    let isRecursive := o.has 'r' || o.has 'R'
    let asks := o.last? ['f', 'i'] == some 'i'
    match s.slot path with
    | .error fault =>
      let isAbsent := fault matches .missing || fault matches .notDirectory
      if o.has 'f' && isAbsent then return true else wrong fault
    | .ok (address, hasSlash) =>
      match s.disk.node? address with
      | none => if o.has 'f' then return true else wrong .missing
      | some node =>
        let remove : Run Bool := do
          match (← get).removeEntry address with
          | .ok s =>
            set s
            let what := if node matches .directory _ then "removed directory " else "removed "
            if o.has 'v' then write 1 (what ++ quotedName path ++ "\n")
            return true
          | .error fault => wrong fault
        match node with
        | .directory mode =>
          let names := s.namesInside address
          if !isRecursive && !o.has 'd' then wrong .directory
          else if !isRecursive then
            if !(← mayGoOn c asks ("remove directory " ++ quotedName path ++ "? ")) then
              return true
            remove
          else
            if !names.isEmpty then
              if !(mode.mayRead && mode.mayEnter) then return ← wrong .denied
              if !(← mayGoOn c asks ("descend into directory " ++ quotedName path ++ "? ")) then
                return true
            let fine ← allFine names fun name => removeEntry c o fuel (inDirectory path name)
            if !fine then return false
            if !(← mayGoOn c asks ("remove directory " ++ quotedName path ++ "? ")) then
              return true
            remove
        | node =>
          if hasSlash then return ← wrong .notDirectory
          if !(← mayGoOn c asks ("remove " ++ kindName node ++ " " ++ quotedName path ++ "? "))
            then return true
          remove

/-- Remove files and directories. -/
def removeFiles : Tool := fun c =>
  c.withOptions 1 "dfirvIR"
      [("dir", 'd', .never), ("force", 'f', .never), ("recursive", 'r', .never),
        ("verbose", 'v', .never), ("interactive", 'i', .perhaps),
        ("no-preserve-root", 'x', .never), ("preserve-root", 'y', .perhaps)] fun o => do
    if o.operands.isEmpty then
      return ← if o.has 'f' then return 0 else c.misused 1 "missing operand"
    return statusOf (← allFine o.operands fun path => do
      let last := lastPart path
      if last = "." ∨ last = ".." then
        c.say ("refusing to remove '.' or '..' directory: skipping " ++ quotedName path)
        return false
      else if last = "/" then
        c.say "it is dangerous to operate recursively on '/'"
        c.say "use --no-preserve-root to override this failsafe"
        return false
      else removeEntry c o maxDepth path)

/-- Remove a single name. -/
def removeName : Tool := fun c =>
  c.withOptions 1 "" [] fun o => do
    match o.operands with
    | [path] =>
      let s ← get
      let result : Except FileFault Session := do
        let (address, _) ← s.slot path
        if s.disk.node? address matches some (.directory _) then throw .directory
        s.removeEntry address
      match result with
      | .ok s =>
        set s
        return 0
      | .error fault => c.fail 1 ("cannot unlink " ++ quotedName path ++ ": " ++ fault.reason)
    | [] => c.misused 1 "missing operand"
    | _ :: extra :: _ => c.misused 1 ("extra operand " ++ quotedName extra)

/-! ### Directories -/

/-- The paths that lead to a path step by step. -/
def stepsTo (path : ByteText) : List ByteText :=
  let parts := (path.toList.splitOn '/').map String.ofList
  let (paths, _) := parts.foldl (fun (state : List ByteText × ByteText) part =>
    let before := state.2
    let here := before ++ part
    (if part.isEmpty then state.1 else state.1 ++ [here], here ++ "/")) ([], "")
  paths

/-- Make directories. -/
def makeDirectories : Tool := fun c =>
  c.withOptions 1 "m:pvZ"
      [("mode", 'm', .always), ("parents", 'p', .never), ("verbose", 'v', .never)] fun o => do
    if o.operands.isEmpty then return ← c.misused 1 "missing operand"
    let mask := (← get).mask
    let mode? := match o.value? 'm' with
      | some text => changedMode? 0o777 mask true text
      | none => some (0o777 - mask)
    match mode? with
    | none => c.fail 1 ("invalid mode " ++ quotedName ((o.value? 'm').getD ""))
    | some mode =>
      let wrong (path : ByteText) (fault : FileFault) : Run Bool := do
        c.say ("cannot create directory " ++ quotedName path ++ ": " ++ fault.reason)
        return false
      let make (mode : Nat) (path : ByteText) : Run Bool := do
        match (← get).makeDirectory path ⟨mode⟩ with
        | .ok s =>
          set s
          if o.has 'v' then
            write 1 (c.name ++ ": created directory " ++ quotedName path ++ "\n")
          return true
        | .error fault => wrong path fault
      return statusOf (← allFine o.operands fun path => do
        if !o.has 'p' then make mode path
        else
          let paths := stepsTo path
          let mut fine := true
          for (step, i) in paths.zipIdx do
            if fine then
              let isLast := i + 1 == paths.length
              let s ← get
              match s.node? step, s.entryAt step with
              | some (.directory _), _ => pure ()
              | some _, _ => fine ← wrong step (if isLast then .alreadyThere else .notDirectory)
              | none, some _ => fine ← wrong step .alreadyThere
              | none, none =>
                fine ← make (if isLast then mode else (0o777 - mask) ||| 0o300) step
          return fine)

/-- Remove empty directories. -/
def removeDirectories : Tool := fun c =>
  c.withOptions 1 "pv"
      [("parents", 'p', .never), ("verbose", 'v', .never),
        ("ignore-fail-on-non-empty", 'x', .never)] fun o => do
    if o.operands.isEmpty then return ← c.misused 1 "missing operand"
    let remove (path : ByteText) : Run Bool := do
      if o.has 'v' then
        write 1 (c.name ++ ": removing directory, " ++ quotedName path ++ "\n")
      let s ← get
      let result : Except FileFault Session := do
        let (address, _) ← s.slot path
        if lastPart path = "." then throw .invalidArgument
        match s.disk.node? address with
        | none => throw .missing
        | some (.directory _) => s.removeEntry address
        | some _ => throw .notDirectory
      match result with
      | .ok s =>
        set s
        return true
      | .error fault =>
        if o.has 'x' && fault matches .notEmpty then return true
        c.say ("failed to remove " ++ quotedName path ++ ": " ++ fault.reason)
        return false
    return statusOf (← allFine o.operands fun path => do
      let paths := if o.has 'p' then (stepsTo path).reverse else [path]
      let mut fine := true
      for path in paths do
        if fine then fine ← remove path
      return fine)

/-! ### Links -/

/-- Make a link of a name to a target. -/
def linkEntry (c : Call) (o : FoundOptions) (target path : ByteText) : Run Bool := do
  let wrong (text : ByteText) : Run Bool := do
    c.say text
    return false
  let isSymbolic := o.has 's'
  let s ← get
  let kind := if isSymbolic then "symbolic link " else "hard link "
  let source? : Except ByteText (Option DiskNode) :=
    if isSymbolic then .ok none
    else
      match s.slot target with
      | .error fault => .error ("failed to access " ++ quotedName target ++ ": " ++ fault.reason)
      | .ok (address, _) =>
        match s.disk.node? address with
        | none =>
          .error ("failed to access " ++ quotedName target ++ ": No such file or directory")
        | some (.directory _) =>
          .error (shownName target ++ ": hard link not allowed for directory")
        | some node => .ok (some node)
  match source? with
  | .error message => wrong message
  | .ok node? =>
    let cleared : Session :=
      match s.slot path with
      | .ok (address, _) =>
        match s.disk.node? address with
        | some (.directory _) => s
        | some _ => if o.has 'f' && (s.changeFault? address).isNone then
            s.withDisk (s.disk.remove address) else s
        | none => s
      | .error _ => s
    let result : Except FileFault Session :=
      match node? with
      | none => cleared.makeLink target path
      | some node => do
        let (address, _) ← cleared.slot path
        if (cleared.disk.node? address).isSome then throw .alreadyThere
        match cleared.changeFault? address with
        | some fault => throw fault
        | none => return cleared.withDisk (cleared.disk.put address node)
    match result with
    | .ok s =>
      set s
      if o.has 'v' then
        let sign := if isSymbolic then " -> " else " => "
        write 1 (quotedName path ++ sign ++ quotedName target ++ "\n")
      return true
    | .error fault =>
      let behind := if isSymbolic || fault matches .alreadyThere then ""
        else " => " ++ quotedName target
      wrong ("failed to create " ++ kind ++ quotedName path ++ behind ++ ": " ++ fault.reason)

/-- Make links. -/
def makeLinks : Tool := fun c =>
  c.withOptions 1 "bdfinst:vLPS:Tr"
      [("force", 'f', .never), ("interactive", 'i', .never), ("no-dereference", 'n', .never),
        ("symbolic", 's', .never), ("target-directory", 't', .always),
        ("no-target-directory", 'T', .never), ("verbose", 'v', .never),
        ("relative", 'r', .never)] fun o => do
    let s ← get
    let isDirectory (path : ByteText) : Bool :=
      if o.has 'n' then (s.entryAt path matches some (.directory _)) else s.isDirectory path
    let pairs : Except (Run Nat) (List (ByteText × ByteText)) :=
      match o.value? 't', o.operands with
      | _, [] => .error (c.misused 1 "missing file operand")
      | some directory, targets =>
        .ok (targets.map fun t => (t, inDirectory directory (lastPart t)))
      | none, [only] => .ok [(only, lastPart only)]
      | none, [target, path] =>
        if isDirectory path && !o.has 'T' then
          .ok [(target, inDirectory path (lastPart target))]
        else .ok [(target, path)]
      | none, operands =>
        let goal := operands.getLast?.getD ""
        match s.node goal with
        | .ok (.directory _) =>
          .ok (operands.dropLast.map fun t => (t, inDirectory goal (lastPart t)))
        | .ok _ => .error (c.fail 1 ("target " ++ quotedName goal ++ ": Not a directory"))
        | .error fault => .error (c.fail 1 ("target " ++ quotedName goal ++ ": " ++ fault.reason))
    match pairs with
    | .error work => work
    | .ok pairs =>
      return statusOf (← allFine pairs fun (target, path) => do
        let s ← get
        let target :=
          if o.has 'r' && o.has 's' then
            match s.locate target, s.slot path with
            | .ok goal, .ok (address, _) =>
              .ofText (Disk.pathBetween address.dropLast goal)
            | _, _ => target
          else target
        linkEntry c o target path)

/-! ### Modes and times -/

/-- Change the mode of a file, and of what is inside a directory if that is wanted. -/
def changeMode (c : Call) (o : FoundOptions) (text : ByteText) :
    (fuel : Nat) → (path : ByteText) → Run Bool
  | 0, _ => return false
  | fuel + 1, path => do
    let s ← get
    match s.locate path, s.node path with
    | .ok address, .ok node =>
      let isDirectory := node matches .directory _
      let old := (modeOf node).bits
      let new := (changedMode? old s.mask isDirectory text).getD old
      let isOwn := s.disk.nodes.any (·.1 == address) || address == s.disk.workingDirectory
      if !isOwn then
        c.say ("changing permissions of " ++ quotedName path ++ ": Operation not permitted")
        return false
      set (s.withDisk (s.disk.setMode address ⟨new⟩))
      let shown (mode : Nat) : ByteText :=
        octalMode mode ++ " (" ++ modeLetters mode ++ ")"
      if old != new && (o.has 'v' || o.has 'c') then
        write 1 ("mode of " ++ quotedName path ++ " changed from " ++ shown old ++ " to " ++
          shown new ++ "\n")
      if old == new && o.has 'v' then
        write 1 ("mode of " ++ quotedName path ++ " retained as " ++ shown old ++ "\n")
      if o.has 'R' && isDirectory then
        let s ← get
        match s.disk.node? address with
        | some (.directory mode) =>
          if !mode.mayRead then
            c.say ("cannot read directory " ++ quotedName path ++ ": Permission denied")
            return false
        | _ => pure ()
        allFine (s.namesInside address) fun name => do
          let inner := inDirectory path name
          if (← get).entryAt inner matches some (.link _) then return true
          else changeMode c o text fuel inner
      else return true
    | _, .error fault =>
      let isDangling := (s.entryAt path).isSome
      if !o.has 'f' then
        c.say (if isDangling then "cannot operate on dangling symlink " ++ quotedName path
          else "cannot access " ++ quotedName path ++ ": " ++ fault.reason)
      if o.has 'v' then write 1 (quotedName path ++ " could not be accessed\n")
      return false
    | .error fault, _ =>
      if !o.has 'f' then c.say ("cannot access " ++ quotedName path ++ ": " ++ fault.reason)
      if o.has 'v' then write 1 (quotedName path ++ " could not be accessed\n")
      return false

/-- Change the modes of files. -/
def changeModes : Tool := fun c =>
  -- A mode that takes rights away looks like options.
  let isMode (a : ByteText) : Bool :=
    match a.toList with
    | '-' :: letters => !letters.isEmpty && letters.all ['r', 'w', 'x', 'X', 's', 't', 'u', 'g',
        'o', ',', '+', '-', '='].contains
    | _ => false
  let front := c.arguments.takeWhile (· != "--")
  let mode? := front.find? isMode
  let c := match mode? with
    | some mode => { c with arguments := c.arguments.erase mode }
    | none => c
  c.withOptions 1 "Rcfv"
      [("changes", 'c', .never), ("silent", 'f', .never), ("quiet", 'f', .never),
        ("verbose", 'v', .never), ("recursive", 'R', .never), ("reference", 'r', .always)]
      fun o => do
    let s ← get
    let operands := mode?.toList ++ o.operands
    let (text?, files) := match o.value? 'r' with
      | some path => (((s.node path).toOption).map fun n =>
          String.ofList (Nat.toDigits 8 (modeOf n).bits), operands)
      | none => (operands.head?, operands.tail)
    match text?, files with
    | none, _ => c.misused 1 "missing operand"
    | some text, [] => c.misused 1 ("missing operand after " ++ quotedName text)
    | some text, files =>
      if (changedMode? 0 s.mask false text).isNone then
        return ← c.misused 1 ("invalid mode: " ++ quotedName text)
      return statusOf (← allFine files (changeMode c o text maxDepth))

/-- Make files, or let them be written now. -/
def touchFiles : Tool := fun c =>
  c.withOptions 1 "acd:fhmr:t:"
      [("no-create", 'c', .never), ("date", 'd', .always), ("no-dereference", 'h', .never),
        ("reference", 'r', .always), ("time", 'T', .always)] fun o => do
    if o.operands.isEmpty then return ← c.misused 1 "missing file operand"
    let s ← get
    let now := Moment.ofNanos s.disk.clock
    let dates := (o.values 'd').map (Moment.ofText? now) ++
      (o.values 't').map fun t => momentOfDigits? now t.toList
    match ((o.values 'd' ++ o.values 't').zip dates).find? (·.2.isNone) with
    | some (text, _) => return ← c.fail 1 ("invalid date format " ++ quotedName text)
    | none => pure ()
    let time? : Except FileFault (Option Nat) :=
      match o.value? 'r' with
      | some path => (s.node path).map fun n => some (timeOf n)
      | none => .ok ((dates.getLast?.join).map Moment.toNanos)
    match time? with
    | .error fault =>
      c.fail 1 ("failed to get attributes of " ++ quotedName ((o.value? 'r').getD "") ++ ": " ++
        fault.reason)
    | .ok time? =>
      return statusOf (← allFine o.operands fun path => do
        let s ← get
        match s.node path with
        | .ok _ => pure ()
        | .error fault =>
          let isMissing := fault matches .missing
          if o.has 'c' && isMissing then return true
          if path.endsWith "/" then
            let reason := if isMissing then "No such file or directory" else fault.reason
            let what := if isMissing then "cannot touch " else "setting times of "
            c.say (what ++ quotedName path ++ ": " ++ reason)
            return false
          match ← putContent path true "" with
          | .ok () => pure ()
          | .error fault =>
            c.say ("cannot touch " ++ quotedName path ++ ": " ++ fault.reason)
            return false
        let s ← get
        match s.locate path with
        | .ok address =>
          let now := s.disk.clock + 1
          let s := s.withDisk { s.disk with clock := now }
          set (s.withDisk (s.disk.changeFile address fun f =>
            { f with modified := time?.getD now }))
        | .error _ => pure ()
        return true)

/-- Cut files off or fill them up to a size. -/
def resizeFiles : Tool := fun c =>
  c.withOptions 1 "cor:s:"
      [("no-create", 'c', .never), ("reference", 'r', .always), ("size", 's', .always)] fun o => do
    match o.value? 's' with
    | none => c.misused 1 "you must specify either '--size' or '--reference'"
    | some text =>
      let (sign, digits) := match text.toList with
        | '+' :: rest => (some '+', rest)
        | '-' :: rest => (some '-', rest)
        | '<' :: rest => (some '<', rest)
        | '>' :: rest => (some '>', rest)
        | '%' :: rest => (some '%', rest)
        | chars => (none, chars)
      match sizeOf? (String.ofList digits) with
      | none => c.fail 1 ("Invalid number: " ++ quotedName text)
      | some n =>
        if o.operands.isEmpty then return ← c.misused 1 "missing file operand"
        return statusOf (← allFine o.operands fun path => do
          let known := ((← get).content path).toOption
          if known.isNone && o.has 'c' then return true
          let content := known.getD []
          let size := match sign with
            | some '+' => content.length + n
            | some '-' => content.length - n
            | some '<' => min content.length n
            | some '>' => max content.length n
            | some _ => (content.length + n - 1) / max n 1 * n
            | none => n
          let filled := content.take size ++ List.replicate (size - content.length) 0
          match ← putContent path false (.ofBytes filled) with
          | .ok () => return true
          | .error fault =>
            c.say ("cannot open " ++ quotedName path ++ " for writing: " ++ fault.reason)
            return false)

end DesignAtlas.Shell.Tools
