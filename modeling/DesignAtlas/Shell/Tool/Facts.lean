import DesignAtlas.Shell.Tool.Calendar
import DesignAtlas.Shell.Tool.Place

/-!
# Facts

Tools that tell something about the machine, its user and the time.

* `writeDate` writes a moment.
* `writeIdentity` and `writeSystem` write who works and on what.
-/

namespace DesignAtlas.Shell.Tools

open Text

/-! ### Time -/

/-- The formats of the international standard, by their names. -/
def isoFormats : List (String × String) :=
  [("hours", "%Y-%m-%dT%H%:z"), ("minutes", "%Y-%m-%dT%H:%M%:z"), ("date", "%Y-%m-%d"),
    ("seconds", "%Y-%m-%dT%H:%M:%S%:z"), ("ns", "%Y-%m-%dT%H:%M:%S,%N%:z")]

/-- The formats of another standard, by their names. -/
def plainFormats : List (String × String) :=
  [("date", "%Y-%m-%d"), ("seconds", "%Y-%m-%d %H:%M:%S%:z"),
    ("ns", "%Y-%m-%d %H:%M:%S.%N%:z")]

/-- Complain about an argument of an option that is none of some words. -/
def refuseWord (c : Call) (option word : ByteText) (words : List String) : Run Nat := do
  c.say ("invalid argument " ++ quotedName word ++ " for '" ++ option ++ "'")
  write 2 ("Valid arguments are:\n" ++ String.join (words.map fun w => "  - '" ++ w ++ "'\n"))
  c.pointToHelp 1

/-- Write a moment. -/
def writeDate : Tool := fun c =>
  c.withOptions 1 "d:f:I::r:Rs:u"
      [("date", 'd', .always), ("file", 'f', .always), ("iso-8601", 'I', .perhaps),
        ("reference", 'r', .always), ("rfc-email", 'R', .never), ("rfc-822", 'R', .never),
        ("rfc-2822", 'R', .never), ("rfc-3339", '3', .always), ("set", 's', .always),
        ("utc", 'u', .never), ("universal", 'u', .never)] fun o => do
    let s ← get
    let now := Moment.ofNanos s.disk.clock
    let iso := (o.options.filter (·.1 == 'I')).map fun option => option.2.getD "date"
    match iso.find? fun word => (isoFormats.lookup word).isNone with
    | some word => return ← refuseWord c "--iso-8601" word (isoFormats.map (·.1))
    | none => pure ()
    match (o.values '3').find? fun word => (plainFormats.lookup word).isNone with
    | some word => return ← refuseWord c "--rfc-3339" word (plainFormats.map (·.1))
    | none => pure ()
    let formats := o.operands.filter (·.startsWith "+")
    let format? : Option ByteText :=
      (iso.getLast?.bind fun word => isoFormats.lookup word).or
        (((o.value? '3').bind fun word => plainFormats.lookup word).or
          (if o.has 'R' then some "%a, %d %b %Y %H:%M:%S %z" else none))
    if 1 < [o.has 'd', o.has 'r', o.has 'f', o.has 's'].countP id then
      return ← c.misused 1 "the options to specify dates for printing are mutually exclusive"
    match o.operands with
    | first :: second :: _ =>
      return ← c.misused 1
        ("extra operand " ++ quotedName (if first.startsWith "+" then second else second))
    | [text] =>
      if formats.isEmpty then
        if o.has 'd' || o.has 'r' then
          return ← c.misused 1 ("the argument " ++ quotedName text ++
            " lacks a leading '+';\nwhen using an option to specify date(s), any non-option\n" ++
            "argument must be a format string beginning with '+'")
        else return ← c.fail 1 ("invalid date " ++ quotedName text)
      else if format?.isSome then
        return ← c.misused 1 "multiple output formats specified"
    | [] => pure ()
    let format :=
      ((formats.head?.map fun f => String.ofList (f.toList.drop 1)).or format?).getD
        "%a %b %e %H:%M:%S %Z %Y"
    let shown (m : Moment) : Run Nat := do
      write 1 (m.inFormat format ++ "\n")
      return 0
    let named (text : ByteText) : Run Nat :=
      match Moment.ofText? now text with
      | some m => shown m
      | none => c.fail 1 ("invalid date " ++ quotedName text)
    match o.value? 'd', o.value? 'r', o.value? 'f', o.value? 's' with
    | some text, _, _, _ => named text
    | _, some path, _, _ =>
      match s.node path with
      | .ok node => shown (momentOf s.disk.made node)
      | .error fault => c.fail 1 (shownName path ++ ": " ++ fault.reason)
    | _, _, some path, _ =>
      match ← contentOf path with
      | .error fault => c.fail 1 (shownName path ++ ": " ++ fault.reason)
      | .ok content =>
        let mut status := 0
        for line in linesOf content do
          status := max status (← named line)
        return status
    | _, _, _, some _ =>
      c.say "cannot set date: Operation not permitted"
      let _ ← shown now
      return 1
    | _, _, _, _ => shown now

/-! ### Users and machines -/

/-- The name of the user. -/
def userName : ByteText := "user"

/-- The number of the user. -/
def userNumber : ByteText := "1000"

/-- Write something that needs no operands. -/
def writeFact (text : ByteText) : Tool := fun c =>
  c.withOptions 1 "" [] fun o => do
    match o.operands with
    | extra :: _ => c.misused 1 ("extra operand " ++ quotedName extra)
    | [] =>
      write 1 (text ++ "\n")
      return 0

/-- Write who works. -/
def writeIdentity : Tool := fun c =>
  c.withOptions 1 "agnruzGZ"
      [("group", 'g', .never), ("groups", 'G', .never), ("name", 'n', .never),
        ("real", 'r', .never), ("user", 'u', .never), ("zero", 'z', .never)] fun o => do
    let choices := (["g", "u", "G"].filter fun w => o.has (w.toList.headD ' ')).length
    if 1 < choices then
      return ← c.fail 1 "cannot print \"only\" of more than one choice"
    if choices = 0 && (o.has 'n' || o.has 'r') then
      return ← c.fail 1 "cannot print only names or real IDs in default format"
    if choices = 0 && o.has 'z' then
      return ← c.fail 1 "option --zero not permitted in default format"
    let lineEnd := if o.has 'z' then "\x00" else "\n"
    let shown (name number : ByteText) : Run Unit :=
      if choices = 0 then
        let both := number ++ "(" ++ name ++ ")"
        write 1 ("uid=" ++ both ++ " gid=" ++ both ++ " groups=" ++ both ++ "\n")
      else write 1 ((if o.has 'n' then name else number) ++ lineEnd)
    let users : List (ByteText × ByteText) :=
      [(userName, userNumber), (userNumber, userNumber), ("root", "0"), ("0", "0")]
    if o.operands.isEmpty then
      shown userName userNumber
      return 0
    let mut fine := true
    for name in o.operands do
      match users.lookup name with
      | some number => shown (if number = "0" then "root" else userName) number
      | none =>
        fine := false
        c.say (quotedName name ++ ": no such user")
    return statusOf fine

/-- Write the groups of users. -/
def writeGroups : Tool := fun c =>
  c.withOptions 1 "" [] fun o => do
    if o.operands.isEmpty then
      write 1 (userName ++ "\n")
      return 0
    let mut fine := true
    for name in o.operands do
      if name = "root" ∨ name = userName then write 1 (name ++ " : " ++ name ++ "\n")
      else
        fine := false
        c.say (quotedName name ++ ": no such user")
    return statusOf fine

/-- Write what the machine is. -/
def writeSystem : Tool := fun c =>
  c.withOptions 1 "asnrvmpio"
      [("all", 'a', .never), ("kernel-name", 's', .never), ("nodename", 'n', .never),
        ("kernel-release", 'r', .never), ("kernel-version", 'v', .never),
        ("machine", 'm', .never), ("processor", 'p', .never), ("hardware-platform", 'i', .never),
        ("operating-system", 'o', .never)] fun o => do
    match o.operands with
    | extra :: _ => c.misused 1 ("extra operand " ++ quotedName extra)
    | [] =>
      let facts : List (Char × ByteText) :=
        [('s', "Linux"), ('n', "localhost"), ('r', "6.1.0"), ('v', "#1 SMP"), ('m', "x86_64"),
          ('p', "unknown"), ('i', "unknown"), ('o', "GNU/Linux")]
      let isShown (fact : Char × ByteText) : Bool :=
        if o.has 'a' then fact.2 != "unknown"
        else if o.options.isEmpty then fact.1 == 's'
        else o.has fact.1
      write 1 (" ".intercalate ((facts.filter isShown).map (·.2)) ++ "\n")
      return 0

/-- Write the number of processors. -/
def writeProcessorCount : Tool := fun c =>
  c.withOptions 1 "" [("all", 'a', .never), ("ignore", 'i', .always)] fun o => do
    match o.operands, (o.value? 'i').filter fun text => (natural? text).isNone || text.isEmpty with
    | _, some text => c.fail 1 ("invalid number: " ++ quotedName text)
    | extra :: _, none => c.misused 1 ("extra operand " ++ quotedName extra)
    | [], none =>
      let count := 4 - ((o.value? 'i').bind natural?).getD 0
      write 1 (Nat.repr (max 1 count) ++ "\n")
      return 0

/-- Write the name of the terminal. There is none. -/
def writeTerminal : Tool := fun c =>
  c.withOptions 2 "s" [("quiet", 's', .never), ("silent", 's', .never)] fun o => do
    match o.operands with
    | extra :: _ => c.misused 2 ("extra operand " ++ quotedName extra)
    | [] =>
      if !o.has 's' then write 1 "not a tty\n"
      return 1

/-- Wait until files are stored, which they always are. -/
def storeFiles : Tool := fun c =>
  c.withOptions 1 "df" [("data", 'd', .never), ("file-system", 'f', .never)] fun o => do
    if o.has 'd' && o.has 'f' then
      return ← c.fail 1 "cannot specify both --data and --file-system"
    if o.has 'd' && o.operands.isEmpty then
      return ← c.fail 1 "--data needs at least one argument"
    let s ← get
    let mut fine := true
    for path in o.operands do
      match s.node path with
      | .ok _ => pure ()
      | .error fault =>
        fine := false
        c.say ("error opening " ++ quotedName path ++ ": " ++ fault.reason)
    return statusOf fine

end DesignAtlas.Shell.Tools
