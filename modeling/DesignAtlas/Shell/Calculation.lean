import DesignAtlas.Shell.Arithmetic
import DesignAtlas.Shell.Parameter

/-!
# Calculations

The values of arithmetic expressions in a session. The plain dialect wants the values of variables
to be numbers; in the rich one they can be expressions themselves.

* `calculate` is the value of an expression that is given as a text.
* `elementPlace` is the place in an array that a text stands for.
-/

namespace DesignAtlas.Shell

/-- Why an operator has no value. -/
def BinaryOperator.fault : BinaryOperator → ArithmeticCause
  | power => .negativeExponent
  | _ => .divisionByZero

/-- Complain about an expression, and give up. -/
def faultyExpression {α : Type} (source : ByteText) (f : ArithmeticFault) : Run α := do
  let d := (← get).dialect
  complain (f.message d source)
  finish (if d = .plain then 2 else 1)
  throw .failed

mutual

/-- The value of an expression that is given as a text. -/
def calculateWithin : (fuel : Nat) → ByteText → Run Int
  | 0, source => faultyExpression source ⟨.tooDeep, source⟩
  | fuel + 1, source => do
    match expressionOf (← get).dialect source with
    | .error fault => faultyExpression source fault
    | .ok e => valueOf fuel source e

/-- The number that a text stands for. -/
def numberOfText : (fuel : Nat) → ByteText → Run Int
  | 0, source => faultyExpression source ⟨.tooDeep, source⟩
  | fuel + 1, text => do
    match (← get).dialect, numberOfValue? text with
    | .plain, some n => return n
    | .plain, none => giveUp ("Illegal number: " ++ text)
    | .rich, some n => return n
    | .rich, none => calculateWithin fuel text

/-- The value of an expression. Its text is kept for complaints. -/
def valueOf : (fuel : Nat) → (source : ByteText) → Expression → Run Int
  | 0, source, _ => faultyExpression source ⟨.tooDeep, source⟩
  | fuel + 1, source, e => do
    match e with
    | .number n => return n
    | .value t => targetNumber fuel t
    | .unary o operand => return o.apply (← valueOf fuel source operand)
    | .binary o first second behind =>
      let a ← valueOf fuel source first
      let b ← valueOf fuel source second
      match o.apply a b with
      | some n => return n
      | none => faultyExpression source ⟨o.fault, behind⟩
    | .both first second =>
      if (← valueOf fuel source first) = 0 then return 0
      else return ofCondition ((← valueOf fuel source second) != 0)
    | .either first second =>
      if (← valueOf fuel source first) ≠ 0 then return 1
      else return ofCondition ((← valueOf fuel source second) != 0)
    | .choice test yes no =>
      if (← valueOf fuel source test) ≠ 0 then valueOf fuel source yes
      else valueOf fuel source no
    | .assign t o value =>
      let b ← valueOf fuel source value
      match o with
      | none =>
        assignTarget fuel t b
        return b
      | some o =>
        let a ← targetNumber fuel t
        match o.apply a b with
        | some n =>
          assignTarget fuel t n
          return n
        | none => faultyExpression source ⟨o.fault, ""⟩
    | .change t step isBefore =>
      let a ← targetNumber fuel t
      let b := wrapped (a + step)
      assignTarget fuel t b
      return if isBefore then b else a
    | .second first second =>
      let _ ← valueOf fuel source first
      valueOf fuel source second

/-- The number that a variable stands for. -/
def targetNumber : (fuel : Nat) → Target → Run Int
  | 0, t => faultyExpression t.name ⟨.tooDeep, t.name⟩
  | fuel + 1, t => do
    let s ← get
    match t.key with
    | none =>
      match s.found t.name with
      | .one (some text) => numberOfText fuel text
      | _ =>
        if s.dialect = .rich ∧ s.hasOption 'u' then
          say (t.name ++ ": unbound variable")
          exitWith 1
        else return 0
    | some key =>
      match s.arrayValue t.name with
      | .keyed elements => numberOfText fuel ((elements.lookup key).getD "")
      | v =>
        let place ← placeIn fuel t.name v key
        numberOfText fuel ((v.indexedElements.lookup place).getD "")

/-- Let a variable stand for a number. -/
def assignTarget : (fuel : Nat) → Target → Int → Run Unit
  | 0, t, _ => faultyExpression t.name ⟨.tooDeep, t.name⟩
  | fuel + 1, t, n => do
    match t.key with
    | none => assign t.name (Int.repr n)
    | some key =>
      match (← get).arrayValue t.name with
      | .keyed elements => assignValue t.name (.keyed (Value.insertKey key (Int.repr n) elements))
      | v =>
        let place ← placeIn fuel t.name v key
        assignValue t.name (.indexed (Value.insertAt place (Int.repr n) v.indexedElements))

/-- The place in an array of numbered elements that a text stands for. Negative numbers count from
the end. -/
def placeIn : (fuel : Nat) → (name : String) → Value → (key : ByteText) → Run Nat
  | 0, name, _, _ => faultyExpression name ⟨.tooDeep, name⟩
  | fuel + 1, name, v, key => do
    let n ← calculateWithin fuel key
    if 0 ≤ n then return n.toNat
    else if 0 ≤ n + v.nextIndex then return (n + v.nextIndex).toNat
    else
      say (name ++ "[" ++ key ++ "]: bad array subscript")
      finish 1
      throw .failed

end

/-- The depth of calculations. -/
def calculationFuel : Nat := 4096

/-- The value of an expression that is given as a text. -/
def calculate (source : ByteText) : Run Int :=
  calculateWithin calculationFuel source

/-- The place in an array of numbered elements that a text stands for. -/
def elementPlace (name : String) (v : Value) (key : ByteText) : Run Nat :=
  placeIn calculationFuel name v key

/-- Give an element of an array a text. Behind the former text, if it is to be kept. -/
def assignElement (name : String) (key : ByteText) (appends : Bool) (t : ByteText) : Run Unit := do
  let isInteger := ((← get).binding? name).any (·.integer)
  let combined (known : Option ByteText) : Run ByteText := do
    if isInteger then
      let n ← calculate t
      if appends then return Int.repr (wrapped (n + (← calculate (known.getD ""))))
      else return Int.repr n
    else return if appends then known.getD "" ++ t else t
  match (← get).arrayValue name with
  | .keyed elements =>
    let text ← combined (elements.lookup key)
    assignValue name (.keyed (Value.insertKey key text elements))
  | v =>
    let place ← elementPlace name v key
    let text ← combined (v.indexedElements.lookup place)
    assignValue name (.indexed (Value.insertAt place text v.indexedElements))

end DesignAtlas.Shell
