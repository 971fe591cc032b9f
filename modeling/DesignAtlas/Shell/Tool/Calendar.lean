import DesignAtlas.Shell.Tool.Basic

/-!
# The calendar

Moments in time, counted from the start of 1970 in Greenwich, and their texts.

* `Day.ofNumber` and `Day.number` lead from numbers of days to days and back.
* `Moment.formatted` writes a moment as a format says.
* `Moment.ofText?` is the moment that a text names.
-/

namespace DesignAtlas.Shell.Tools

/-- The months. -/
def monthNames : List String :=
  ["January", "February", "March", "April", "May", "June", "July", "August", "September",
    "October", "November", "December"]

/-- The days of the week. -/
def weekdayNames : List String :=
  ["Sunday", "Monday", "Tuesday", "Wednesday", "Thursday", "Friday", "Saturday"]

/-- A name in short. -/
def inShort (name : String) : String :=
  String.ofList (name.toList.take 3)

/-- A day of the calendar. -/
structure Day where
  /-- The year. -/
  year : Nat
  /-- The month, from 1 on. -/
  month : Nat
  /-- The day of the month, from 1 on. -/
  day : Nat
  deriving DecidableEq, Repr

namespace Day

/-- The number of days from the first of March of the year 0 to the start of 1970. -/
def epochOffset : Nat := 719468

/-- The day of a number of days since 1970. -/
def ofNumber (days : Int) : Day :=
  -- Years start with March here, so that the day that is left out comes last.
  let z := (days + epochOffset).toNat
  let era := z / 146097
  let inEra := z % 146097
  let yearOfEra := (inEra - inEra / 1460 + inEra / 36524 - inEra / 146096) / 365
  let dayOfYear := inEra - (365 * yearOfEra + yearOfEra / 4 - yearOfEra / 100)
  let shifted := (5 * dayOfYear + 2) / 153
  let day := dayOfYear - (153 * shifted + 2) / 5 + 1
  let month := if shifted < 10 then shifted + 3 else shifted - 9
  ⟨yearOfEra + era * 400 + (if month ≤ 2 then 1 else 0), month, day⟩

/-- The number of days from the start of 1970 to a day. Days beyond the end of a month lead into the
next one. -/
def number (d : Day) : Int :=
  let year := if d.month ≤ 2 then d.year - 1 else d.year
  let shifted := if d.month ≤ 2 then d.month + 9 else d.month - 3
  let era := year / 400
  let yearOfEra := year % 400
  let dayOfYear := (153 * shifted + 2) / 5
  let inEra := yearOfEra * 365 + yearOfEra / 4 - yearOfEra / 100 + dayOfYear
  (era * 146097 + inEra : Nat) - (epochOffset : Int) + ((d.day : Int) - 1)

/-- The day of the week, from Sunday on. -/
def weekday (d : Day) : Nat :=
  ((d.number + 4) % 7).toNat

/-- The number of days of the year in front of a day. -/
def inYear (d : Day) : Nat :=
  (d.number - number ⟨d.year, 1, 1⟩).toNat

/-- Whether a day is in the calendar. -/
def isValid (d : Day) : Bool :=
  decide (1 ≤ d.month ∧ d.month ≤ 12 ∧ 1 ≤ d.day) && ofNumber d.number == d

/-- The year and number of the week that a day belongs to. Weeks start on Monday, and the first one
of a year holds its first Thursday. -/
def week (d : Day) : Nat × Nat :=
  let thursday := ofNumber (d.number - (d.weekday + 6) % 7 + 3)
  (thursday.year, thursday.inYear / 7 + 1)

/-- A day that is some months later. -/
def addMonths (d : Day) (months : Int) : Day :=
  let count : Int := d.year * 12 + (d.month - 1 : Nat) + months
  ofNumber (number ⟨(count / 12).toNat, (count % 12).toNat + 1, d.day⟩)

end Day

/-- A moment. -/
structure Moment where
  /-- The seconds since the start of 1970. -/
  seconds : Int
  /-- The nanoseconds behind them. -/
  nanos : Nat
  deriving DecidableEq, Repr

namespace Moment

/-- The moment at a number of nanoseconds. -/
def ofNanos (n : Nat) : Moment :=
  ⟨(n / 1000000000 : Nat), n % 1000000000⟩

/-- The number of nanoseconds of a moment that is not before 1970. -/
def toNanos (m : Moment) : Nat :=
  m.seconds.toNat * 1000000000 + m.nanos

/-- The day of a moment. -/
def day (m : Moment) : Day :=
  .ofNumber (m.seconds / 86400)

/-- The second of the day. -/
def secondOfDay (m : Moment) : Nat :=
  (m.seconds % 86400).toNat

/-! ### Formats -/

/-- How a number or name in a format is written. -/
structure FieldStyle where
  /-- What fills the field up, if not what is usual. -/
  filling : Option Char
  /-- The least number of characters. -/
  width : Option Nat
  /-- Whether letters are written as capital ones. -/
  isUpper : Bool
  /-- Whether capital letters are written as small ones, or small ones as capital ones. -/
  isTurned : Bool

/-- A number in a field of a format. -/
def numberField (s : FieldStyle) (width : Nat) (usual : Char) (n : Int) : ByteText :=
  let digits := Nat.repr n.natAbs
  let sign := if n < 0 then "-" else ""
  let width := s.width.getD width
  match s.filling.getD usual with
  | '-' => sign ++ digits
  | '_' => "".pushn ' ' (width - digits.length - sign.length) ++ sign ++ digits
  | _ => sign ++ "".pushn '0' (width - digits.length - sign.length) ++ digits

/-- A name in a field of a format. -/
def nameField (s : FieldStyle) (turnsToLower : Bool) (name : ByteText) : ByteText :=
  let name :=
    if s.isUpper || (s.isTurned && !turnsToLower) then name.map Char.toUpper
    else if s.isTurned then name.map Char.toLower
    else name
  let fill := if s.filling = some '0' then '0' else ' '
  if s.filling = some '-' then name
  else "".pushn fill (s.width.getD 0 - name.length) ++ name

/-- The text of a moment that a letter of a format stands for. -/
def field? (m : Moment) (s : FieldStyle) (letter : Char) : Option ByteText :=
  let d := m.day
  let second := m.secondOfDay
  let hour := second / 3600
  let number (width : Nat) (n : Nat) : Option ByteText := some (numberField s width '0' n)
  let spaced (width : Nat) (n : Nat) : Option ByteText := some (numberField s width '_' n)
  let name (text : String) : Option ByteText := some (nameField s false text)
  let two (n : Nat) : String := (if n < 10 then "0" else "") ++ Nat.repr n
  let hour12 := if hour % 12 = 0 then 12 else hour % 12
  let clock := two hour ++ ":" ++ two (second / 60 % 60) ++ ":" ++ two (second % 60)
  let american := two d.month ++ "/" ++ two d.day ++ "/" ++ two (d.year % 100)
  let weekday := (weekdayNames[d.weekday]?).getD ""
  let month := (monthNames[d.month - 1]?).getD ""
  match letter with
  | 'Y' => number 4 d.year
  | 'C' => number 2 (d.year / 100)
  | 'y' => number 2 (d.year % 100)
  | 'm' => number 2 d.month
  | 'd' => number 2 d.day
  | 'e' => spaced 2 d.day
  | 'H' => number 2 hour
  | 'k' => spaced 2 hour
  | 'I' => number 2 hour12
  | 'l' => spaced 2 hour12
  | 'M' => number 2 (second / 60 % 60)
  | 'S' => number 2 (second % 60)
  | 'j' => number 3 (d.inYear + 1)
  | 'u' => number 1 (if d.weekday = 0 then 7 else d.weekday)
  | 'w' => number 1 d.weekday
  | 'U' => number 2 ((d.inYear + 7 - d.weekday) / 7)
  | 'W' => number 2 ((d.inYear + 7 - (d.weekday + 6) % 7) / 7)
  | 'V' => number 2 d.week.2
  | 'G' => number 4 d.week.1
  | 'g' => number 2 (d.week.1 % 100)
  | 'q' => number 1 ((d.month - 1) / 3 + 1)
  | 's' => some (numberField s 1 '0' m.seconds)
  | 'N' =>
    let digits := "".pushn '0' (9 - (Nat.repr m.nanos).length) ++ Nat.repr m.nanos
    match s.filling, s.width with
    | some '-', none =>
      some (String.ofList (digits.toList.reverse.dropWhile (· == '0')).reverse)
    | _, some width => some (String.ofList (digits.toList.take width) ++ "".pushn '0' (width - 9))
    | _, none => some digits
  | 'a' => name (inShort weekday)
  | 'A' => name weekday
  | 'b' => name (inShort month)
  | 'h' => name (inShort month)
  | 'B' => name month
  | 'p' => some (nameField s true (if hour < 12 then "AM" else "PM"))
  | 'P' => name (if hour < 12 then "am" else "pm")
  | 'Z' => some (nameField s true "UTC")
  | 'z' => name "+0000"
  | 'F' => name (Nat.repr d.year ++ "-" ++ two d.month ++ "-" ++ two d.day)
  | 'T' => name clock
  | 'X' => name clock
  | 'R' => name (two hour ++ ":" ++ two (second / 60 % 60))
  | 'r' =>
    name (two hour12 ++ ":" ++ two (second / 60 % 60) ++ ":" ++ two (second % 60) ++
      (if hour < 12 then " AM" else " PM"))
  | 'D' => name american
  | 'x' => name american
  | 'c' =>
    let day := Nat.repr d.day
    name (inShort weekday ++ " " ++ inShort month ++ " " ++ (if d.day < 10 then " " else "") ++
      day ++ " " ++ clock ++ " " ++ Nat.repr d.year)
  | 'n' => name "\n"
  | 't' => name "\t"
  | '%' => name "%"
  | _ => none

/-- A moment as a format says. -/
def formatted (m : Moment) : (fuel : Nat) → List Char → ByteText
  | 0, _ => ""
  | fuel + 1, text =>
    match text with
    | [] => ""
    | '%' :: rest =>
      let flags := rest.takeWhile ['-', '_', '0', '+', '^', '#'].contains
      let behind := rest.drop flags.length
      let digits := behind.takeWhile Char.isDigit
      let behind := behind.drop digits.length
      let fillings := flags.filter ['-', '_', '0', '+'].contains
      let width : Option Nat :=
        if digits.isEmpty then none
        else some (digits.foldl (fun n d => 10 * n + (d.toNat - 48)) 0)
      let style : FieldStyle :=
        ⟨fillings.getLast?, width, flags.contains '^', flags.contains '#'⟩
      let colons := behind.takeWhile (· == ':')
      let behind := behind.drop colons.length
      let behind := if colons.isEmpty then behind.dropWhile ['E', 'O'].contains else behind
      match behind with
      | [] => String.ofList text
      | letter :: after =>
        let zone := (["+0000", "+00:00", "+00:00:00", "+00"] : List String)[colons.length]?
        let shown? :=
          if colons.isEmpty then m.field? style letter
          else if letter = 'z' then zone else none
        let left := String.ofList (text.take (text.length - after.length))
        shown?.getD left ++ formatted m fuel after
    | c :: rest => c.toString ++ formatted m fuel rest

/-- A moment as a format says. -/
def inFormat (m : Moment) (format : ByteText) : ByteText :=
  m.formatted (format.length + 1) format.toList

/-! ### Texts -/

/-- A part of a text that names a moment. -/
inductive Token where
  /-- A number, with the number of its digits. -/
  | number (n digits : Nat)
  /-- A word in small letters. -/
  | word (w : String)
  /-- A sign. -/
  | sign (c : Char)
  deriving DecidableEq, Repr

/-- The parts of a text that names a moment. -/
def tokens : (fuel : Nat) → List Char → List Token
  | 0, _ => []
  | fuel + 1, text =>
    match text with
    | [] => []
    | c :: rest =>
      if c.isDigit then
        let digits := text.takeWhile Char.isDigit
        .number (digits.foldl (fun n d => 10 * n + (d.toNat - 48)) 0) digits.length ::
          tokens fuel (text.drop digits.length)
      else if c.isAlpha then
        let letters := text.takeWhile fun c => c.isAlpha
        .word (String.ofList (letters.map Char.toLower)) :: tokens fuel (text.drop letters.length)
      else if c = ' ' ∨ c = '\t' ∨ c = ',' then tokens fuel rest
      else .sign c :: tokens fuel rest

/-- What a text says about a moment. -/
structure Said where
  /-- The day. -/
  day : Option Day
  /-- The second of the day and the nanoseconds. -/
  time : Option (Nat × Nat)
  /-- The seconds that the clock of a place is ahead. -/
  zone : Option Int
  /-- The day of the week. -/
  weekday : Option Nat
  /-- The months to be added. -/
  months : Int
  /-- The days to be added. -/
  days : Int
  /-- The seconds to be added. -/
  seconds : Int

/-- The place of a name that a word is, or stands for in short. -/
def placeAmong (names : List String) (word : String) : Option Nat :=
  names.findIdx? fun name =>
    name.map Char.toLower == word || (inShort name).map Char.toLower == word

/-- Add some units of time. -/
def Said.add (s : Said) (n : Int) (unit : String) : Option Said :=
  let unit := if unit.endsWith "s" ∧ unit ≠ "s" then String.ofList unit.toList.dropLast else unit
  match unit with
  | "year" => some { s with months := s.months + 12 * n }
  | "month" => some { s with months := s.months + n }
  | "fortnight" => some { s with days := s.days + 14 * n }
  | "week" => some { s with days := s.days + 7 * n }
  | "day" => some { s with days := s.days + n }
  | "hour" => some { s with seconds := s.seconds + 3600 * n }
  | "min" => some { s with seconds := s.seconds + 60 * n }
  | "minute" => some { s with seconds := s.seconds + 60 * n }
  | "sec" => some { s with seconds := s.seconds + n }
  | "second" => some { s with seconds := s.seconds + n }
  | _ => none

/-- The hour of a clock of twelve hours. -/
def fullHour? (hour : Nat) (isAfternoon : Bool) : Option Nat :=
  if hour = 0 ∨ 12 < hour then none
  else some (hour % 12 + (if isAfternoon then 12 else 0))

/-- The year that a number with so many digits stands for. -/
def fullYear (n digits : Nat) : Nat :=
  if 2 < digits then n else if n < 69 then 2000 + n else 1900 + n

/-- Read what stands behind a time: the half of the day and the place of the clock. -/
def zoneOf (s : Said) (hour second nanos : Nat) (rest : List Token) :
    Option (Said × List Token) := do
  let (hour, rest) ← match rest with
    | .word "am" :: rest => (fullHour? hour false).map fun h => (h, rest)
    | .word "pm" :: rest => (fullHour? hour true).map fun h => (h, rest)
    | rest => if hour < 24 then some (hour, rest) else none
  let s := { s with time := some (hour * 3600 + second, nanos) }
  let signed (sign : Char) (n : Int) (rest : List Token) : Option (Said × List Token) :=
    some ({ s with zone := some (if sign = '-' then -n else n) }, rest)
  match rest with
  | .sign sign :: .number h 2 :: .sign ':' :: .number m 2 :: rest =>
    if sign = '+' ∨ sign = '-' then signed sign (h * 3600 + m * 60 : Nat) rest else none
  | .sign sign :: .number n 4 :: rest =>
    if sign = '+' ∨ sign = '-' then signed sign (n / 100 * 3600 + n % 100 * 60 : Nat) rest
    else none
  | .sign sign :: .number n _ :: rest =>
    -- A unit behind the number would not make it a place either.
    if sign = '+' ∨ sign = '-' then signed sign (n * 3600 : Nat) rest else none
  | rest => some (s, rest)

/-- Read one thing that a text says. -/
def readItem (s : Said) (text : List Token) : Option (Said × List Token) :=
  let dayIs (year month day : Nat) (rest : List Token) : Option (Said × List Token) :=
    let d : Day := ⟨year, month, day⟩
    if s.day.isNone ∧ d.isValid then some ({ s with day := some d }, rest) else none
  let counted (n : Int) (unit : String) (rest : List Token) : Option (Said × List Token) :=
    match rest with
    | .word "ago" :: rest => (s.add (-n) unit).map fun s => (s, rest)
    | rest => (s.add n unit).map fun s => (s, rest)
  match text with
  | .number y dy :: .sign '-' :: .number m _ :: .sign '-' :: .number d _ :: .word "t" :: rest =>
    dayIs (fullYear y dy) m d rest
  | .number y dy :: .sign '-' :: .number m _ :: .sign '-' :: .number d _ :: rest =>
    dayIs (fullYear y dy) m d rest
  | .number m dm :: .sign '/' :: .number d _ :: .sign '/' :: .number y dy :: rest =>
    if 4 ≤ dm then dayIs m d y rest else dayIs (fullYear y dy) m d rest
  | .number h _ :: .sign ':' :: .number m _ :: .sign ':' :: .number sec _ :: .sign '.' ::
      .number f digits :: rest =>
    if m < 60 ∧ sec < 61 then
      zoneOf s h (m * 60 + sec) (f * Nat.pow 10 9 / Nat.pow 10 digits) rest
    else none
  | .number h _ :: .sign ':' :: .number m _ :: .sign ':' :: .number sec _ :: rest =>
    if m < 60 ∧ sec < 61 then zoneOf s h (m * 60 + sec) 0 rest else none
  | .number h _ :: .sign ':' :: .number m _ :: rest =>
    if m < 60 then zoneOf s h (m * 60) 0 rest else none
  | .number d _ :: .word w :: rest =>
    match placeAmong monthNames w with
    | some i =>
      match rest with
      | .number y 4 :: rest => dayIs y (i + 1) d rest
      | rest => dayIs 2024 (i + 1) d rest
    | none =>
      if w = "am" ∨ w = "pm" then zoneOf s d 0 0 (.word w :: rest) else counted d w rest
  | .number n 8 :: rest => dayIs (n / 10000) (n / 100 % 100) (n % 100) rest
  | .number n 4 :: rest =>
    if s.time.isNone ∧ n / 100 < 24 ∧ n % 100 < 60 then
      some ({ s with time := some (n / 100 * 3600 + n % 100 * 60, 0) }, rest)
    else none
  | .sign '+' :: .number n _ :: .word w :: rest => counted n w rest
  | .sign '-' :: .number n _ :: .word w :: rest => counted (-(n : Int)) w rest
  | .word "utc" :: rest => some ({ s with zone := some 0 }, rest)
  | .word "gmt" :: rest => some ({ s with zone := some 0 }, rest)
  | .word "z" :: rest => some ({ s with zone := some 0 }, rest)
  | .word "now" :: rest => some (s, rest)
  | .word "today" :: rest => some (s, rest)
  | .word "yesterday" :: rest => some ({ s with days := s.days - 1 }, rest)
  | .word "tomorrow" :: rest => some ({ s with days := s.days + 1 }, rest)
  | .word "next" :: .word w :: rest => counted 1 w rest
  | .word "last" :: .word w :: rest => counted (-1) w rest
  | .word "this" :: .word w :: rest => counted 0 w rest
  | .word w :: rest =>
    match placeAmong monthNames w, placeAmong weekdayNames w, rest with
    | some i, _, .number d _ :: .number y 4 :: rest => dayIs y (i + 1) d rest
    | some i, _, .number d _ :: rest => dayIs 2024 (i + 1) d rest
    | none, some i, rest => some ({ s with weekday := some i }, rest)
    | _, _, rest => counted 1 w rest
  | _ => none

/-- Read all that a text says. -/
def readItems : (fuel : Nat) → Said → List Token → Option Said
  | 0, _, _ => none
  | _ + 1, s, [] => some s
  | fuel + 1, s, text => do
    let (s, rest) ← readItem s text
    readItems fuel s rest

/-- The moment that a text names, at a given time. -/
def ofText? (now : Moment) (text : ByteText) : Option Moment :=
  match (text.toList.dropWhile (· == ' ')) with
  | '@' :: digits =>
    let (isNegative, digits) := match digits with
      | '-' :: rest => (true, rest)
      | rest => (false, rest)
    let whole := digits.takeWhile Char.isDigit
    let fraction := match digits.drop whole.length with
      | '.' :: rest => rest
      | _ => []
    let isRead := whole.length + fraction.length +
      (if digits.length = whole.length then 0 else 1) = digits.length
    if whole.isEmpty ∨ !isRead ∨ fraction.any (!·.isDigit) then none
    else
      let value (ds : List Char) : Nat := ds.foldl (fun n d => 10 * n + (d.toNat - 48)) 0
      let nanos := value ((fraction ++ List.replicate 9 '0').take 9)
      let seconds : Int := value whole
      some (if isNegative then
          (if nanos = 0 then ⟨-seconds, 0⟩ else ⟨-seconds - 1, 1000000000 - nanos⟩)
        else ⟨seconds, nanos⟩)
  | chars => do
    let parts := tokens (chars.length + 1) chars
    let s ← readItems (parts.length + 1) ⟨none, none, none, none, 0, 0, 0⟩ parts
    let day := s.day.getD now.day
    let isBare := s.day.isNone && s.time.isNone && s.weekday.isNone && !parts.isEmpty
    let (second, nanos) := s.time.getD (if isBare then (now.secondOfDay, now.nanos) else (0, 0))
    let day := day.addMonths s.months
    let number := day.number + s.days
    let number := match s.weekday with
      | some w => number + (((w : Int) - (number + 4)) % 7)
      | none => number
    return ⟨number * 86400 + second - s.zone.getD 0 + s.seconds, nanos⟩

end Moment

/-- The moment when a node was changed. What is no file was not changed since the disk was made. -/
def momentOf (made : Nat) : DiskNode → Moment
  | .file f => .ofNanos f.modified
  | _ => .ofNanos made

/-- The moment that digits name: the year, which may be missing, the month, the day, the hour and
the minute, with seconds behind a point. -/
def momentOfDigits? (now : Moment) (text : List Char) : Option Moment :=
  let whole := text.takeWhile (· != '.')
  let seconds? : Option Nat := match text.drop whole.length with
    | [] => some 0
    | ['.', a, b] =>
      if a.isDigit && b.isDigit then some ((a.toNat - 48) * 10 + (b.toNat - 48)) else none
    | _ => none
  if whole.any (!·.isDigit) then none
  else
    let n : Nat := whole.foldl (fun n d => 10 * n + (d.toNat - 48)) 0
    let year? : Option Nat := match whole.length with
      | 8 => some now.day.year
      | 10 => some (Moment.fullYear (n / Nat.pow 10 8) 2)
      | 12 => some (n / Nat.pow 10 8)
      | _ => none
    match year?, seconds? with
    | some year, some second =>
      let d : Day := ⟨year, n / Nat.pow 10 6 % 100, n / Nat.pow 10 4 % 100⟩
      let hour := n / 100 % 100
      let minute := n % 100
      if d.isValid && decide (hour < 24 ∧ minute < 60 ∧ second < 61) then
        some ⟨d.number * 86400 + (hour * 3600 + minute * 60 + second : Nat), 0⟩
      else none
    | _, _ => none

end DesignAtlas.Shell.Tools
