import DesignAtlas.Shell.Tool.Files

/-!
# Putting files in place

* `installFiles` copies files to where they are used, with a mode of their own.
* `linkFile` gives a file another name.
-/

namespace DesignAtlas.Shell.Tools

open Text

/-- Make a directory and those that lead to it. -/
def installDirectory (c : Call) (o : FoundOptions) (mode : Mode) (path : ByteText) : Run Bool := do
  let mut fine := true
  for step in stepsTo path do
    if fine then
      let s ← get
      match s.node step with
      | .ok (.directory _) => pure ()
      | .ok _ =>
        c.say ("cannot create directory " ++ quotedName step ++ ": File exists")
        fine := false
      | .error _ =>
        match s.makeDirectory step (if step = path then mode else ⟨0o755⟩) with
        | .ok s =>
          set s
          if o.has 'v' then
            write 1 (c.name ++ ": creating directory " ++ quotedName step ++ "\n")
        | .error fault =>
          c.say ("cannot create directory " ++ quotedName step ++ ": " ++ fault.reason)
          fine := false
  return fine

/-- Copy a file to a goal, in place of what stands there, with a mode. -/
def installFile (c : Call) (o : FoundOptions) (mode : Mode) (source goal : ByteText) :
    Run Bool := do
  let wrong (text : ByteText) : Run Bool := do
    c.say text
    return false
  let s ← get
  match s.node source with
  | .error fault => wrong ("cannot stat " ++ quotedName source ++ ": " ++ fault.reason)
  | .ok (.directory _) => wrong ("omitting directory " ++ quotedName source)
  | .ok _ =>
    if s.isDirectory goal then
      return ← wrong ("cannot overwrite directory " ++ quotedName goal ++ " with non-directory")
    if isSame s source goal then
      return ← wrong (quotedName source ++ " and " ++ quotedName goal ++ " are the same file")
    match ← contentOf (if source = "-" then "./-" else source) with
    | .error fault =>
      wrong ("cannot open " ++ quotedName source ++ " for reading: " ++ fault.reason)
    | .ok content =>
      if o.has 'D' then
        if !(← installDirectory c o ⟨0o755⟩ (withoutLastPart goal)) then return false
      let s ← get
      let isThere := (s.entryAt goal).isSome
      let removed : Except FileFault Session := do
        if isThere then
          let (address, _) ← s.slot goal
          s.removeEntry address
        else return s
      match removed with
      | .error fault => wrong ("cannot remove " ++ quotedName goal ++ ": " ++ fault.reason)
      | .ok s =>
        set s
        match ← putContent goal false content with
        | .error fault =>
          wrong ("cannot create regular file " ++ quotedName goal ++ ": " ++ fault.reason)
        | .ok () =>
          let s ← get
          match s.locate goal with
          | .ok address => set (s.withDisk (s.disk.setMode address mode))
          | .error _ => pure ()
          if o.has 'v' then
            if isThere then write 1 ("removed " ++ quotedName goal ++ "\n")
            write 1 (quotedName source ++ " -> " ++ quotedName goal ++ "\n")
          return true
where
  /-- Whether two paths lead to the same place. -/
  isSame (s : Session) (a b : ByteText) : Bool :=
    match s.locate a, s.locate b with
    | .ok x, .ok y => x == y
    | _, _ => false

/-- Copy files to where they are used, or make directories. -/
def installFiles : Tool := fun c =>
  c.withOptions 1 "bcCDdg:m:o:pst:Tv"
      [("compare", 'C', .never), ("directory", 'd', .never), ("group", 'g', .always),
        ("mode", 'm', .always), ("owner", 'o', .always), ("preserve-timestamps", 'p', .never),
        ("strip", 's', .never), ("target-directory", 't', .always),
        ("no-target-directory", 'T', .never), ("verbose", 'v', .never)] fun o => do
    let bits? := match o.value? 'm' with
      | some text => changedMode? 0 0 (o.has 'd') text
      | none => some 0o755
    match bits?, o.operands with
    | none, _ => c.fail 1 ("invalid mode " ++ quotedName ((o.value? 'm').getD ""))
    | _, [] => c.misused 1 "missing file operand"
    | some bits, operands =>
      let mode : Mode := ⟨bits⟩
      if o.has 'd' then return statusOf (← allFine operands (installDirectory c o mode))
      -- The directories on the way to a goal can be made first.
      if o.has 'D' then
        match o.value? 't' with
        | some directory =>
          if !(← installDirectory c o ⟨0o755⟩ directory) then return 1
        | none => pure ()
      withGoals c o fun pairs => do
        return statusOf (← allFine pairs fun (source, goal) => installFile c o mode source goal)

/-- Give a file another name. -/
def linkFile : Tool := fun c =>
  c.withOptions 1 "" [] fun o => do
    match o.operands with
    | [] => c.misused 1 "missing operand"
    | [only] => c.misused 1 ("missing operand after " ++ quotedName only)
    | _ :: _ :: extra :: _ => c.misused 1 ("extra operand " ++ quotedName extra)
    | [target, path] =>
      let s ← get
      let result : Except FileFault Session := do
        let (source, _) ← s.slot target
        let (address, _) ← s.slot path
        match s.disk.node? source, s.disk.node? address with
        | none, _ => throw .missing
        | some (.directory _), _ => throw .notPermitted
        | some _, some _ => throw .alreadyThere
        | some node, none =>
          match s.changeFault? address with
          | some fault => throw fault
          | none => return s.withDisk (s.disk.put address node)
      match result with
      | .ok s =>
        set s
        return 0
      | .error fault =>
        c.fail 1 ("cannot create link " ++ quotedName path ++ " to " ++ quotedName target ++ ": " ++
          fault.reason)

end DesignAtlas.Shell.Tools
