import DesignAtlas.Shell.ByteText
import Std.Data.HashMap.Basic

/-!
# Tables

Values by keys, which are texts or whole numbers. The keys are walked through bucket by bucket; in a
bucket the key that was used last comes first. Keys that were only used as numbers get their buckets
when a text is asked for, or when the keys are walked through.

* `Table.find` and `Table.findNumber` look a key up, with or without putting it in.
* `Table.keys` are the keys in order.
-/

namespace DesignAtlas.Shell.Records

/-- An entry of a table. -/
structure TableEntry (α : Type) where
  /-- The value. -/
  value : α
  /-- The number that the key was used as. -/
  number : Option Int
  /-- The time when the key was last used as a text, once it has a bucket. -/
  textTime : Option Nat
  /-- The time when the key was last used as a number. -/
  numberTime : Nat

/-- Values by keys. -/
structure Table (α : Type) where
  /-- The entries by their keys. -/
  entries : Std.HashMap ByteText (TableEntry α)
  /-- Whether the keys have buckets. -/
  hasTexts : Bool
  /-- The time, which counts the uses. -/
  time : Nat

namespace Table

variable {α : Type}

/-- A table without keys. -/
def empty : Table α :=
  ⟨∅, false, 0⟩

/-- The number of keys. -/
def size (t : Table α) : Nat :=
  t.entries.size

/-- The number of buckets: 64, and twice as many whenever there are more than twelve keys for each
of them. -/
def buckets (t : Table α) : Nat :=
  let rec grown : (fuel : Nat) → Nat → Nat
    | 0, count => count
    | fuel + 1, count => if 12 * count < t.size then grown fuel (2 * count) else count
  grown 40 64

/-- A number that scatters texts. -/
def scattered (key : ByteText) : Nat :=
  (key.toList.foldl (fun (h : UInt32) c => (h ^^^ UInt32.ofNat c.toNat) * 16777619)
    2166136261).toNat

/-- The table with a bucket for every key. -/
def withTexts (t : Table α) : Table α :=
  if t.hasTexts then t
  else
    let bucket (e : TableEntry α) : Nat := ((e.number.getD 0) % t.buckets).toNat
    let waiting := (t.entries.toList.filter fun e => e.2.textTime.isNone).mergeSort fun a b =>
      if bucket a.2 = bucket b.2 then decide (b.2.numberTime ≤ a.2.numberTime)
      else decide (bucket a.2 < bucket b.2)
    let (entries, time) := waiting.foldl
      (fun (state : Std.HashMap ByteText (TableEntry α) × Nat) e =>
        (state.1.insert e.1 { e.2 with textTime := some state.2 }, state.2 + 1))
      (t.entries, t.time)
    ⟨entries, true, time⟩

/-- Look a text up. A value may be put in for a key that is not there. -/
def find (t : Table α) (key : ByteText) (fresh : Option α) : Table α × Option α :=
  let t := t.withTexts
  match t.entries[key]?, fresh with
  | some e, _ =>
    let entry := { e with textTime := some t.time }
    ({ t with entries := t.entries.insert key entry, time := t.time + 1 }, some e.value)
  | none, some value =>
    ({ t with entries := t.entries.insert key ⟨value, none, some t.time, 0⟩, time := t.time + 1 },
      some value)
  | none, none => (t, none)

/-- Look a number up. A value may be put in for a key that is not there. -/
def findNumber (t : Table α) (number : Int) (fresh : Option α) : Table α × Option α :=
  let key : ByteText := toString number
  match t.entries[key]? with
  | some e =>
    let entry :=
      { e with
        number := some number
        numberTime := t.time
        -- A key that is met as a number for the first time is looked up as a text.
        textTime := if e.number.isSome then e.textTime else some t.time }
    ({ t with entries := t.entries.insert key entry, time := t.time + 1 }, some e.value)
  | none =>
    match fresh with
    | some value =>
      let textTime := if t.hasTexts then some t.time else none
      ({ t with
          entries := t.entries.insert key ⟨value, some number, textTime, t.time⟩
          time := t.time + 1 }, some value)
    | none => (t, none)

/-- Change the value of a key that is there. -/
def put (t : Table α) (key : ByteText) (value : α) : Table α :=
  match t.entries[key]? with
  | some e => { t with entries := t.entries.insert key { e with value := value } }
  | none => t

/-- Take a key out. -/
def erase (t : Table α) (key : ByteText) : Table α :=
  let entries := t.entries.erase key
  if entries.isEmpty then empty else { t with entries := entries }

/-- The keys in order. -/
def keys (t : Table α) : List ByteText :=
  let t := t.withTexts
  let count := t.buckets
  let placed := t.entries.toList.map fun e =>
    (scattered e.1 % count, e.2.textTime.getD 0, e.1)
  let sorted := placed.mergeSort fun a b =>
    if a.1 = b.1 then decide (b.2.1 ≤ a.2.1) else decide (a.1 < b.1)
  sorted.map (·.2.2)

end Table

end DesignAtlas.Shell.Records
