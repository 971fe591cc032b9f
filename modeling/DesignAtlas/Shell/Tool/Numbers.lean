import DesignAtlas.Regex.Reader
import DesignAtlas.Shell.Format
import DesignAtlas.Shell.Tool.Order

/-!
# Tools for numbers

* `writeSequence` writes numbers at even distances.
* `evaluateExpression` finds out the value of an expression that is given word by word.
* `writeFactors` takes numbers apart into primes.
-/

namespace DesignAtlas.Shell.Tools

open Number

/-! ### Sequences -/

/-- A number that an operand of a sequence stands for. -/
structure SequenceNumber where
  /-- The numerator. -/
  numerator : Int
  /-- The denominator. -/
  denominator : Nat
  /-- The number of characters that it is written with. -/
  width : Nat
  /-- The number of digits behind its point. -/
  places : Nat

namespace SequenceNumber

/-- Read an operand. A number beyond all others is kept apart. -/
def ofText? (text : ByteText) : Option (Except Bool SequenceNumber) :=
  match ReadNumber.atStart? true text.toList with
  | some (.fraction isNegative n d, []) =>
    let chars := (text.toList.dropWhile (· == ' ')).dropWhile (· == '+')
    let behind := (chars.dropWhile (· != '.')).drop 1
    let places := (behind.takeWhile Char.isDigit).length
    let isHexadecimal := chars.any fun c => c == 'x' || c == 'X'
    let power := if isHexadecimal then 0 else
      match chars.dropWhile fun c => c != 'e' && c != 'E' with
      | _ :: e => ((ReadNumber.exponent? e).map (·.1)).getD 0
      | [] => 0
    let shown : Int := (places : Int) - power
    some (.ok ⟨if isNegative then -(n : Int) else n, d, chars.length, shown.toNat⟩)
  | some (.infinite isNegative, []) => some (.error isNegative)
  | _ => none

/-- One. -/
def one : SequenceNumber := ⟨1, 1, 1, 0⟩

end SequenceNumber

/-- A fraction with so many places behind the point. -/
def fixedFraction (n : Int) (d : Nat) (places : Nat) : ByteText :=
  let scaled := roundedQuotient (n.natAbs * Nat.pow 10 places) d
  let digits := Nat.repr scaled
  let digits := "".pushn '0' (places + 1 - digits.length) ++ digits
  let (whole, behind) := digits.toList.splitAt (digits.length - places)
  let sign := if n < 0 then "-" else ""
  sign ++ String.ofList whole ++ if places = 0 then "" else "." ++ String.ofList behind

/-- Fill a number up to a width with zeros behind its sign. -/
def zeroFilled (width : Nat) (text : ByteText) : ByteText :=
  match text.toList with
  | '-' :: digits =>
    "-" ++ "".pushn '0' (width - text.length) ++ String.ofList digits
  | _ => "".pushn '0' (width - text.length) ++ text

/-- The format of the numbers of a sequence: the text before, the directive, its letter, and the
text behind. -/
def sequenceFormat (format : ByteText) :
    Except ByteText (ByteText × Directive × Char × ByteText) :=
  let rec plain : (fuel : Nat) → List Char → List Char × List Char
    | 0, text => ([], text)
    | _ + 1, [] => ([], [])
    | fuel + 1, '%' :: '%' :: rest =>
      let (text, behind) := plain fuel rest
      ('%' :: text, behind)
    | _ + 1, '%' :: rest => ([], '%' :: rest)
    | fuel + 1, c :: rest =>
      let (text, behind) := plain fuel rest
      (c :: text, behind)
  let wrong (what : ByteText) : Except ByteText (ByteText × Directive × Char × ByteText) :=
    .error ("format " ++ quotedName format ++ what)
  let (before, rest) := plain (format.length + 1) format.toList
  match rest with
  | '%' :: rest =>
    let flags := rest.takeWhile ['-', '+', '#', '0', ' ', '\x27'].contains
    let rest := rest.drop flags.length
    let width := rest.takeWhile Char.isDigit
    let rest := rest.drop width.length
    let (precision, rest) := match rest with
      | '.' :: rest =>
        let digits := rest.takeWhile Char.isDigit
        (some ((natural? (String.ofList digits)).getD 0), rest.drop digits.length)
      | rest => (none, rest)
    let rest := match rest with
      | 'L' :: rest => rest
      | rest => rest
    match rest with
    | [] => wrong " ends in %"
    | letter :: rest =>
      if !(['a', 'e', 'f', 'g', 'A', 'E', 'F', 'G'].contains letter) then
        wrong (" has unknown %" ++ letter.toString ++ " directive")
      else
        let (behind, more) := plain (rest.length + 1) rest
        if more.isEmpty then
          let directive : Directive :=
            { flags := flags, width := (natural? (String.ofList width)).getD 0,
              precision := precision }
          .ok (String.ofList before, directive, letter, String.ofList behind)
        else wrong " has too many % directives"
  | _ => wrong " has no % directive"

/-- Write items that come one after the other, in portions. -/
def writePortions (item? : Nat → Option ByteText) : (rounds : Nat) → (next : Nat) → Run Unit
  | 0, _ => return
  | rounds + 1, next => do
    let items := (List.range 1000).filterMap fun i => item? (next + i)
    write 1 (String.join items)
    if items.length = 1000 then writePortions item? rounds (next + 1000)

/-- The number of portions that can be written. -/
def portionLimit : Nat := 1000000

/-- Write numbers at even distances. -/
def writeSequence : Tool := fun c => do
  -- A number below zero is no option.
  let isNumber (a : ByteText) : Bool :=
    match a.toList with
    | '-' :: d :: _ => d.isDigit || d == '.'
    | _ => false
  let front := c.arguments.takeWhile (!isNumber ·)
  let behind := c.arguments.drop front.length
  let isOptionArgument := (front.getLast?).any fun a => a == "-s" || a == "-f"
  let c := if behind.isEmpty || isOptionArgument then c
    else if front.contains "--" then c
    else { c with arguments := front ++ "--" :: behind }
  c.withLeadingOptions 1 "f:s:w"
      [("format", 'f', .always), ("separator", 's', .always), ("equal-width", 'w', .never)]
      fun o => do
    let operands := if o.operands.head? = some "--" then o.operands.tail else
      o.operands.filter (· != "--")
    match operands with
    | [] => c.misused 1 "missing operand"
    | _ :: _ :: _ :: extra :: _ => c.misused 1 ("extra operand " ++ quotedName extra)
    | operands =>
      match operands.find? fun text => (SequenceNumber.ofText? text).isNone with
      | some text =>
        if ReadNumber.startsWith "nan" text.toList then
          c.misused 1 ("invalid 'not-a-number' argument: " ++ quotedName text)
        else c.misused 1 ("invalid floating point argument: " ++ quotedName text)
      | none =>
        let numbers := operands.filterMap SequenceNumber.ofText?
        let one : Except Bool SequenceNumber := .ok .one
        let (first, step, last) :=
          match numbers with
          | [last] => (one, one, last)
          | [first, last] => (first, one, last)
          | [first, step, last] => (first, step, last)
          | _ => (one, one, one)
        match first, step with
        | .ok first, .ok step =>
          if step.numerator = 0 then
            return ← c.misused 1 ("invalid Zero increment value: " ++
              quotedName (operands.getD 1 ""))
          if o.has 'f' && o.has 'w' then
            return ← c.misused 1
              "format string may not be specified when printing equal width strings"
          let separator := (o.value? 's').getD "\n"
          let places := max first.places step.places
          let (lastN, lastD) : Int × Nat := match last with
            | .ok n => (n.numerator, n.denominator)
            | .error _ => (0, 1)
          let isWithin (n : Int) (d : Nat) : Bool :=
            match last with
            | .error isNegative => isNegative == decide (step.numerator < 0)
            | .ok _ =>
              if 0 < step.numerator then decide (n * lastD ≤ lastN * d)
              else decide (lastN * d ≤ n * lastD)
          let width :=
            if !o.has 'w' then 0
            else
              let firstWidth := first.width - first.places + places +
                (if first.places = 0 ∧ places ≠ 0 then 1 else 0)
              let lastWidth := match last with
                | .error _ => 0
                | .ok n =>
                  n.width - n.places + places + (if n.places = 0 ∧ places ≠ 0 then 1 else 0) -
                    (if n.places ≠ 0 ∧ places = 0 then 1 else 0)
              max firstWidth lastWidth
          let shown? : Except ByteText (Int → Nat → ByteText) :=
            match o.value? 'f' with
            | none => .ok fun n d => zeroFilled width (fixedFraction n d places)
            | some format => do
              let (before, directive, letter, behind) ← sequenceFormat format
              return fun n d =>
                before ++ directive.binaryText letter
                  (.nearest .extended (decide (n < 0)) n.natAbs d) ++ behind
          match shown? with
          | .error message => c.fail 1 message
          | .ok shown =>
            let d := first.denominator * step.denominator
            let value (i : Nat) : Int :=
              first.numerator * step.denominator + i * step.numerator * first.denominator
            let item? (i : Nat) : Option ByteText :=
              if isWithin (value i) d then
                some ((if i = 0 then "" else separator) ++ shown (value i) d)
              else none
            if (item? 0).isSome then
              writePortions item? portionLimit 0
              write 1 "\n"
            return 0
        | _, _ => return 0

/-! ### Expressions -/

/-- A value of an expression. -/
abbrev ExpressionValue : Type := ByteText

/-- The integer that a value stands for. -/
def integerOf? (v : ExpressionValue) : Option Int :=
  match v.toList with
  | '-' :: digits =>
    if digits.isEmpty then none else (natural? (String.ofList digits)).map fun n => -(n : Int)
  | [] => none
  | _ => (natural? v).map Int.ofNat

/-- Whether a value is empty or zero. -/
def isNull (v : ExpressionValue) : Bool :=
  match v.toList with
  | [] => true
  | '-' :: digits => !digits.isEmpty && digits.all (· == '0')
  | digits => digits.all (· == '0')

/-- A reader of expressions: the last word that was read and those that are left. -/
abbrev ReadExpression (α : Type) : Type :=
  StateT (Option ByteText × List ByteText) (Except ByteText) α

/-- Take the next word if it is a given one. -/
def takeWord (word : ByteText) : ReadExpression Bool := do
  match ← get with
  | (_, next :: rest) =>
    if next = word then
      set (some next, rest)
      return true
    else return false
  | _ => return false

/-- Take the next word. There has to be one. -/
def anyWord : ReadExpression ByteText := do
  match ← get with
  | (_, next :: rest) =>
    set (some next, rest)
    return next
  | (last, []) =>
    throw ("syntax error: missing argument after " ++ quotedName (last.getD ""))

/-- Match a value against a pattern that starts where it does. -/
def matchedPart (v pattern : ByteText) : Except ByteText ExpressionValue :=
  match Regex.ofText .basic pattern.toList with
  | .error fault => .error fault.message
  | .ok r =>
    let subject : Regex.Subject := ⟨v.toList.toArray, false, true, false⟩
    let found := r.matchAt? subject 0
    if 0 < r.groupCount then
      .ok (String.ofList ((found.bind fun m => m.group? subject 1).getD []))
    else .ok (Nat.repr ((found.map (·.last)).getD 0))

/-- The integers that two values stand for. -/
def integers (a b : ExpressionValue) : ReadExpression (Int × Int) :=
  match integerOf? a, integerOf? b with
  | some a, some b => return (a, b)
  | _, _ => throw "non-integer argument"

/-- The value of a comparison. -/
def comparedValue (operator : ByteText) (a b : ExpressionValue) : ExpressionValue :=
  let order := match integerOf? a, integerOf? b with
    | some a, some b => compare a b
    | _, _ => compareChars a.toList b.toList
  let holds : Bool := match operator with
    | "<" => order == .lt
    | "<=" => order != .gt
    | "!=" => order != .eq
    | ">" => order == .gt
    | ">=" => order != .lt
    | _ => order == .eq
  if holds then "1" else "0"

/-- The value of a calculation. -/
def calculatedValue (operator : ByteText) (a b : ExpressionValue) :
    ReadExpression ExpressionValue := do
  let (a, b) ← integers a b
  match operator with
  | "+" => return Int.repr (a + b)
  | "-" => return Int.repr (a - b)
  | "*" => return Int.repr (a * b)
  | _ =>
    if b = 0 then throw "division by zero"
    else return Int.repr (if operator = "/" then a.tdiv b else a.tmod b)

/-- The signs between operands, level by level. Those of a later level bind more strongly. -/
def expressionLevels : List (List ByteText) :=
  [["|"], ["&"], ["<", "<=", "=", "==", "!=", ">=", ">"], ["+", "-"], ["*", "/", "%"], [":"]]

mutual

/-- Read an expression of a level and find out its value, if it counts. -/
def readLevel : (fuel : Nat) → (levels : List (List ByteText)) → (counts : Bool) →
    ReadExpression ExpressionValue
  | 0, _, _ => throw "syntax error"
  | fuel + 1, [], counts => readTerm fuel counts
  | fuel + 1, signs :: levels, counts => do
    let first ← readLevel fuel levels counts
    readMore fuel signs levels counts first

/-- Read the operands behind a value, with the signs of a level between them. -/
def readMore : (fuel : Nat) → (signs : List ByteText) → (levels : List (List ByteText)) →
    (counts : Bool) → ExpressionValue → ReadExpression ExpressionValue
  | 0, _, _, _, _ => throw "syntax error"
  | fuel + 1, signs, levels, counts, v => do
    let sign? := (← get).2.head?.filter signs.contains
    match sign? with
    | none => return v
    | some sign =>
      let _ ← anyWord
      match sign with
      | "|" =>
        let other ← readLevel fuel levels (counts && isNull v)
        let chosen := if isNull v then (if isNull other then "0" else other) else v
        readMore fuel signs levels counts chosen
      | "&" =>
        let other ← readLevel fuel levels (counts && !isNull v)
        readMore fuel signs levels counts (if isNull v || isNull other then "0" else v)
      | sign =>
        let other ← readLevel fuel levels counts
        let value ←
          if !counts then pure v
          else if sign = ":" then
            match matchedPart v other with
            | .ok found => pure found
            | .error message => throw message
          else if ["+", "-", "*", "/", "%"].contains sign then calculatedValue sign v other
          else pure (comparedValue sign v other)
        readMore fuel signs levels counts value

/-- Read a single term. -/
def readTerm : (fuel : Nat) → (counts : Bool) → ReadExpression ExpressionValue
  | 0, _ => throw "syntax error"
  | fuel + 1, counts => do
    if ← takeWord "+" then return ← anyWord
    if ← takeWord "length" then
      return Nat.repr (← readTerm fuel counts).length
    if ← takeWord "match" then
      let v ← readTerm fuel counts
      let pattern ← readTerm fuel counts
      if !counts then return v
      match matchedPart v pattern with
      | .ok found => return found
      | .error message => throw message
    if ← takeWord "index" then
      let v ← readTerm fuel counts
      let wanted ← readTerm fuel counts
      return Nat.repr ((v.toList.findIdx? wanted.toList.contains).elim 0 (· + 1))
    if ← takeWord "substr" then
      let v ← readTerm fuel counts
      let start ← readTerm fuel counts
      let length ← readTerm fuel counts
      match integerOf? start, integerOf? length with
      | some i, some n =>
        if i < 1 ∨ n < 1 then return ""
        else return String.ofList ((v.toList.drop (i.toNat - 1)).take n.toNat)
      | _, _ => return ""
    if ← takeWord "(" then
      let v ← readLevel fuel expressionLevels counts
      if ← takeWord ")" then return v
      match ← get with
      | (_, next :: _) =>
        throw ("syntax error: expecting ')' instead of " ++ quotedName next)
      | (last, []) =>
        throw ("syntax error: expecting ')' after " ++ quotedName (last.getD ""))
    if (← get).2.head? = some ")" then throw "syntax error: unexpected ')'"
    anyWord

end

/-- Find out the value of an expression. -/
def evaluateExpression : Tool := fun c => do
  let words := if c.arguments.head? = some "--" then c.arguments.tail else c.arguments
  match words with
  | [] => c.misused 2 "missing operand"
  | words =>
    let fuel := 20 * (words.length + 2)
    match (readLevel fuel expressionLevels true).run (none, words) with
    | .error message => c.fail 2 message
    | .ok (v, (_, [])) =>
      write 1 (v ++ "\n")
      return if isNull v then 1 else 0
    | .ok (_, (_, extra :: _)) =>
      c.fail 2 ("syntax error: unexpected argument " ++ quotedName extra)

/-! ### Factors -/

/-- The prime factors of a number from a divisor on. -/
def factorsFrom : (fuel : Nat) → (divisor n : Nat) → List Nat
  | 0, _, n => if 1 < n then [n] else []
  | fuel + 1, divisor, n =>
    if n < 2 then []
    else if n < divisor * divisor then [n]
    else if n % divisor = 0 then divisor :: factorsFrom fuel divisor (n / divisor)
    else factorsFrom fuel (divisor + 1) n

/-- Take numbers apart into primes. -/
def writeFactors : Tool := fun c =>
  c.withOptions 1 "h" [("exponents", 'h', .never)] fun o => do
    let words ←
      if !o.operands.isEmpty then pure o.operands
      else do
        let text := (← contentOf "-").toOption.getD ""
        pure (((text.splitOn "\n").flatMap fun line => line.splitOn " ").filter (· != ""))
    let mut fine := true
    let mut shown := ""
    for word in words do
      match natural? word with
      | some n =>
        let factors := factorsFrom 10000000 2 n
        let listed := String.join (factors.map (" " ++ Nat.repr ·))
        shown := shown ++ (Nat.repr n ++ ":" ++ listed ++ "\n")
      | none =>
        fine := false
        c.say (quotedName word ++ " is not a valid positive integer")
    write 1 shown
    return statusOf fine

end DesignAtlas.Shell.Tools
