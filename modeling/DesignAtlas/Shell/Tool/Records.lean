import DesignAtlas.Shell.Records.Evaluation
import DesignAtlas.Shell.Records.Reading

/-!
# Working through records

* `processRecords` carries out a script for the records of its input.
-/

namespace DesignAtlas.Shell.Tools

open Records

/-- How the tool for records was called. -/
structure RecordCall where
  /-- The texts of the script. -/
  scripts : List ByteText
  /-- The assignments that are carried out first. -/
  assignments : List ByteText
  /-- What parts the fields. -/
  separator : Option ByteText
  /-- The arguments of the script. -/
  arguments : List ByteText

/-- Why the tool for records cannot start. -/
inductive RecordCallFault where
  /-- An option lacks its argument. -/
  | lacking (option : ByteText)
  /-- An option is not known. -/
  | unknown (option : ByteText)
  deriving DecidableEq, Repr

/-- Read the options of the tool for records. Names of files with scripts are marked. -/
def recordCall : (fuel : Nat) → List ByteText → Except RecordCallFault
    (RecordCall × List (Sum ByteText ByteText))
  | 0, arguments => .ok (⟨[], [], none, arguments⟩, [])
  | _ + 1, [] => .ok (⟨[], [], none, []⟩, [])
  | fuel + 1, first :: rest =>
    let withValue (letter : Char) (value : ByteText) (rest : List ByteText) :
        Except RecordCallFault (RecordCall × List (Sum ByteText ByteText)) := do
      let (c, files) ← recordCall fuel rest
      match letter with
      | 'F' => return ({ c with separator := c.separator.or (some value) }, files)
      | 'v' => return ({ c with assignments := value :: c.assignments }, files)
      | 'f' => return (c, .inl value :: files)
      | _ => return (c, files)
    match first.toList with
    | ['-', '-'] => .ok (⟨[], [], none, rest⟩, [])
    | ['-'] => .ok (⟨[], [], none, first :: rest⟩, [])
    | '-' :: letter :: value =>
      if !(['F', 'v', 'f', 'W'].contains letter) then .error (.unknown first)
      else
        match value, rest with
        | [], [] => .error (.lacking first)
        | [], value :: rest => withValue letter value rest
        | value, rest => withValue letter (String.ofList value) rest
    | _ => .ok (⟨[], [], none, first :: rest⟩, [])

/-- The machine that a script starts with. -/
def startMachine (c : Call) (s : Session) (script : Script) (arguments : List ByteText) :
    Machine :=
  let table (entries : List (ByteText × Records.Value)) : Cell :=
    .table (entries.foldl (fun t e => (t.find e.1 (some e.2)).1) Table.empty)
  let starts : List (String × Cell) :=
    [("NR", .value (.number 0)), ("FNR", .value (.number 0)), ("FS", .value (.text " ")),
      ("OFS", .value (.text " ")), ("ORS", .value (.text "\n")), ("RS", .value (.text "\n")),
      ("SUBSEP", .value (.text "\x1c")), ("RSTART", .value (.number 0)),
      ("RLENGTH", .value (.number (-1))), ("CONVFMT", .value (.text "%.6g")),
      ("OFMT", .value (.text "%.6g")),
      ("ENVIRON", table (s.environment.map fun e => (e.1, Records.Value.ofInput e.2))),
      ("ARGC", .value (.ofNat (arguments.length + 1))),
      ("ARGV", .table (((c.name :: arguments).zipIdx).foldl (fun (t : Table Records.Value) a =>
        (t.findNumber (a.2 : Nat) (some (Records.Value.ofInput a.1))).1) Table.empty))]
  let cells := script.names.map fun name => (starts.lookup name).getD (.value .unset)
  { call := c, names := script.names, cells := cells, base := 0, record := .unset, fields := #[],
    argument := 1, hasFile := false, main := none, isDone := false, outputs := [], inputs := [],
    waiting := "", active := [], status := 0, seed := s.seed, start := 0 }

/-- Carry out a script for the records of the input. -/
def processRecords : Tool := fun c => do
  match recordCall (c.arguments.length + 1) c.arguments with
  | .error (.lacking option) => c.fail 2 ("option " ++ option ++ " lacks argument")
  | .error (.unknown option) => c.fail 2 ("not an option: " ++ option)
  | .ok (call, files) =>
    -- The script stands in files, or it is the first argument.
    let mut parts := []
    for file in files do
      match file with
      | .inr _ => pure ()
      | .inl path =>
        match ← contentOf path with
        | .ok text => parts := text :: parts
        | .error fault =>
          return ← c.fail 2 ("cannot open \"" ++ path ++ "\" (" ++ fault.reason ++ ")")
    let (text?, arguments) : Option ByteText × List ByteText :=
      match files, call.arguments with
      | [], [] => (none, [])
      | [], text :: arguments => (some text, arguments)
      | _, arguments => (some ("\n".intercalate parts.reverse), arguments)
    match text? with
    | none =>
      write 2 ("Usage: " ++ c.name ++ " [Options] [Program] [file ...]\n")
      return 2
    | some text =>
      match Script.ofText text with
      | .error fault =>
        c.fail 2 ("line " ++ Nat.repr fault.line ++ ": " ++ fault.message)
      | .ok script =>
        let work : Work Unit := do
          match call.separator with
          | some text =>
            let chars := unescapedText (text.length + 1) text.toList
            setVariable (.shared (placeOf "FS")) (.text (String.ofList chars))
          | none => pure ()
          for assignment in call.assignments do
            if !(← assignArgument assignment) then
              Work.perform (c.say ("improper assignment: -v " ++ assignment))
              modify fun m => { m with status := 2 }
              throw .stop
          script.perform
        let guarded : Work Unit := tryCatch work fun jump =>
          match jump with
          | .fault message => do
            let m ← get
            let count (name : String) : ByteText := (m.shared name).toText "%.6g"
            Work.perform (write 2 (c.name ++ ": run time error: " ++ message ++ "\n\tFILENAME=\"" ++
              (m.shared "FILENAME").toText "" ++ "\" FNR=" ++ count "FNR" ++ " NR=" ++
              count "NR" ++ "\n"))
            modify fun m => { m with status := 2 }
          | _ => return
        let machine := startMachine c (← get) script arguments
        let ((), machine) ← (do
          let (_, machine) ← (guarded.run.run machine)
          let (_, machine) ← (closeEverything.run.run machine)
          return ((), machine) : Run (Unit × Machine))
        return machine.status

end DesignAtlas.Shell.Tools
