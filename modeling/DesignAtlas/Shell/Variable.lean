import DesignAtlas.Shell.Syntax

/-!
# Variables

What a name stands for in a shell: a text, or in the rich dialect an array whose places are numbers
or texts.

* `Value.text?` is the text of a value, `Value.element?` that of one place in it.
-/

namespace DesignAtlas.Shell

/-- The value of a variable. -/
inductive Value where
  /-- The variable is known, but has no value. -/
  | missing
  /-- A text. -/
  | text (t : ByteText)
  /-- Elements at numbers, in order. -/
  | indexed (elements : List (Nat × ByteText))
  /-- Elements at texts, the latest last. -/
  | keyed (elements : List (ByteText × ByteText))
  deriving Repr

/-- A variable. -/
structure Variable where
  /-- The value. -/
  value : Value
  /-- Whether programs see it. -/
  exported : Bool
  /-- Whether it cannot be changed. -/
  readOnly : Bool
  /-- Whether its values are numbers. -/
  integer : Bool
  /-- What is done with the letters of its values. -/
  recasing : Option Recasing
  /-- Whether its value is the name of another variable. -/
  reference : Bool
  deriving Repr

namespace Variable

/-- A variable with a value and nothing special about it. -/
def ofValue (v : Value) : Variable :=
  ⟨v, false, false, false, none, false⟩

/-- A variable with a text. -/
def ofText (t : ByteText) : Variable :=
  ofValue (.text t)

end Variable

namespace Value

/-- The bucket of a key, which decides where its element stands among others. -/
def bucket (key : ByteText) : Nat :=
  let hash := key.toList.foldl (fun h c => ((h * 16777619) % Nat.pow 2 32) ^^^ c.toNat) 2166136261
  hash % 1024

/-- The elements of an array whose places are texts, in the order in which they are shown. -/
def ordered (elements : List (ByteText × ByteText)) : List (ByteText × ByteText) :=
  elements.reverse.mergeSort fun a b => decide (bucket a.1 ≤ bucket b.1)

/-- The texts of all elements. -/
def texts : Value → List ByteText
  | missing => []
  | text t => [t]
  | indexed elements => elements.map (·.2)
  | keyed elements => (ordered elements).map (·.2)

/-- The places of all elements. -/
def keys : Value → List ByteText
  | missing => []
  | text _ => ["0"]
  | indexed elements => elements.map fun e => Nat.repr e.1
  | keyed elements => (ordered elements).map (·.1)

/-- The text that a value stands for where one text is wanted. -/
def text? : Value → Option ByteText
  | missing => none
  | text t => some t
  | indexed elements => elements.lookup 0
  | keyed elements => elements.lookup "0"

/-- Put an element at a number, in order. -/
def insertAt (place : Nat) (t : ByteText) : List (Nat × ByteText) → List (Nat × ByteText)
  | [] => [(place, t)]
  | (p, u) :: rest =>
    if place < p then (place, t) :: (p, u) :: rest
    else if place = p then (place, t) :: rest
    else (p, u) :: insertAt place t rest

/-- The elements at numbers that a value has. -/
def indexedElements : Value → List (Nat × ByteText)
  | missing => []
  | text t => [(0, t)]
  | indexed elements => elements
  | keyed _ => []

/-- The number behind the last one that is taken. -/
def nextIndex (v : Value) : Nat :=
  (v.indexedElements.getLast?.map (·.1 + 1)).getD 0

/-- Put an element at a text. -/
def insertKey (key t : ByteText) (elements : List (ByteText × ByteText)) :
    List (ByteText × ByteText) :=
  if elements.any (·.1 == key) then
    elements.map fun e => if e.1 == key then (key, t) else e
  else elements ++ [(key, t)]

end Value

end DesignAtlas.Shell
