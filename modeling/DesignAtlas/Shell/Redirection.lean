import DesignAtlas.Shell.Session

/-!
# Redirections

How files are opened and descriptors are led elsewhere.

* `openStream` opens a file and gives the number of the stream.
* `readFile` is the text of a file.
* `redirect` carries out one redirection, or says why it cannot be carried out.
-/

namespace DesignAtlas.Shell

open Text

/-- What a file is opened for. -/
inductive Opening where
  /-- To be read. -/
  | read
  /-- To be written anew. -/
  | replace
  /-- To be written anew if it is not there. -/
  | create
  /-- To be written behind its content. -/
  | append
  /-- To be read and written. -/
  | update
  deriving DecidableEq, Repr

namespace Session

/-- Open the file at an address for writing. -/
def openFile (s : Session) (opening : Opening) (address : Address) :
    Except FileFault (Session × Nat) :=
  let opened (disk : Disk) : Session × Nat :=
    let reads := opening == Opening.update
    { s with disk := disk }.withStream (.file address 0 reads true (opening == Opening.append))
  match s.disk.node? address, opening with
  | some (.file _), .create => .error .alreadyThere
  | some (.file f), .append => .ok (opened (s.disk.fill address f.mode f.content))
  | some (.file _), .update => .ok (opened s.disk)
  | some (.file f), _ => .ok (opened (s.disk.fill address f.mode []))
  | _, _ => .ok (opened (s.disk.fill address s.newMode []))

/-- Open what stands at an address that can be written. -/
def openNode (s : Session) (opening : Opening) (address : Address) :
    Except FileFault (Session × Nat) :=
  match s.disk.node? address with
  | some (.device .null) => .ok (s.withStream .nowhere)
  | some (.device .zeros) => .ok (s.withStream .zeros)
  | some (.device .full) => .ok (s.withStream .full)
  | some (.device .terminal) => .error .noDevice
  | some (.device (.descriptor n)) =>
    match s.descriptors.lookup n with
    | none => .error .missing
    | some i =>
      match s.streams[i]? with
      -- A file is opened once more, with a place of its own.
      | some (.file known _ _ _ _) =>
        if opening = .read then .ok (s.withStream (.file known 0 true false false))
        else s.openFile opening known
      | _ => .ok (s, i)
  | some (.file f) =>
    if opening = .read then
      if f.mode.mayRead then .ok (s.withStream (.file address 0 true false false))
      else .error .denied
    else s.openFile opening address
  | some (.directory mode) =>
    if opening ≠ .read then .error .directory
    else if mode.mayRead then .ok (s.withStream (.directory address))
    else .error .denied
  | some (.program name) =>
    if opening = .read then .ok (s.withStream (.source name.toUTF8.toList)) else .error .denied
  | _ => if opening = .read then .error .missing else s.openFile opening address

/-- Open a file and give the number of the stream. -/
def openStream (s : Session) (opening : Opening) (path : ByteText) :
    Except FileFault (Session × Nat) :=
  let address :=
    if opening = .read then s.locate path
    else s.disk.writable s.directory ⟨path.toText⟩
  address >>= s.openNode opening

end Session

/-- The descriptor of a file that is open only while its content is taken or given. -/
def passingDescriptor : Nat := 1024

/-- Do some work with a file open, and find out whether that was possible. -/
def withFile {α : Type} (opening : Opening) (path : ByteText) (work : (descriptor : Nat) → Run α) :
    Run (Except FileFault α) := do
  let s ← get
  match s.openStream opening path with
  | .error fault => return .error fault
  | .ok (opened, i) =>
    set (opened.lead passingDescriptor i)
    let a ← work passingDescriptor
    modify fun s => s.close passingDescriptor
    return .ok a

/-- The text of a file, or why it cannot be opened or read. -/
def readFile (path : ByteText) : Run (Except FileFault ByteText) := do
  return (← withFile .read path readAll) >>= id

/-- The stream of a descriptor that a text names. -/
def Session.streamNamed? (s : Session) (text : ByteText) : Option (Option Nat) :=
  if text.isEmpty ∨ text.toList.all Char.isDigit = false then none
  else some (text.toNat?.bind fun n => s.descriptors.lookup n)

/-- What a shell says about a file that cannot be opened. -/
def openingComplaint (d : Dialect) (opening : Opening) (path : ByteText) (fault : FileFault) :
    ByteText :=
  let isAbsent := fault = .missing ∨ fault = .notDirectory
  match d, opening with
  | .plain, .read =>
    "cannot open " ++ path ++ ": " ++ if isAbsent then "No such file" else fault.reason
  | .plain, _ =>
    "cannot create " ++ path ++ ": " ++ if isAbsent then "Directory nonexistent" else fault.reason
  | .rich, .create =>
    path ++ ": " ++ if fault = .alreadyThere then "cannot overwrite existing file" else fault.reason
  | .rich, _ => path ++ ": " ++ fault.reason

/-- Let a descriptor lead where another one does, or say why it cannot. -/
def duplicate (descriptor : Nat) (direction : Direction) (target : ByteText) :
    Run (Except ByteText Unit) := do
  let s ← get
  if target = "-" then
    set (s.close descriptor)
    return .ok ()
  match s.streamNamed? target, s.dialect with
  | some (some i), _ =>
    set (s.lead descriptor i)
    return .ok ()
  | some none, _ => return .error (target ++ ": Bad file descriptor")
  | none, .plain =>
    modify fun s => { s with line := s.reached }
    giveUp "Syntax error: Bad fd number"
  | none, .rich =>
    match direction, s.openStream .replace target with
    | .duplicateOutput, .ok (opened, i) =>
      if descriptor = 1 then
        set ((opened.lead 1 i).lead 2 i)
        return .ok ()
      else return .error (target ++ ": ambiguous redirect")
    | .duplicateOutput, .error fault =>
      return .error (openingComplaint .rich .replace target fault)
    | _, _ => return .error (target ++ ": ambiguous redirect")

/-- Carry out a redirection, or say why it cannot be carried out. -/
def redirect (descriptor : Nat) (direction : Direction) (target : ByteText) :
    Run (Except ByteText Unit) := do
  let s ← get
  let opened (opening : Opening) (descriptors : List Nat) : Run (Except ByteText Unit) := do
    match s.openStream opening target with
    | .ok (opened, i) =>
      set (descriptors.foldl (fun s n => s.lead n i) opened)
      return .ok ()
    | .error fault => return .error (openingComplaint s.dialect opening target fault)
  let read (text : ByteText) : Run (Except ByteText Unit) := do
    let (s, i) := s.withStream (.source text.toBytes)
    set (s.lead descriptor i)
    return .ok ()
  match direction with
  | .document _ => read target
  | .line => read (target ++ "\n")
  | .read => opened .read [descriptor]
  | .update => opened .update [descriptor]
  | .overwrite => opened .replace [descriptor]
  | .replace => opened (if s.hasOption 'C' then .create else .replace) [descriptor]
  | .append => opened .append [descriptor]
  | .replaceBoth => opened .replace [1, 2]
  | .appendBoth => opened .append [1, 2]
  | .duplicateInput => duplicate descriptor direction target
  | .duplicateOutput => duplicate descriptor direction target

end DesignAtlas.Shell
