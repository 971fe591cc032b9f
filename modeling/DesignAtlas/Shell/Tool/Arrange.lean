import DesignAtlas.Number.Total
import DesignAtlas.Shell.Tool.Place

/-!
# Arranging items

* `arrangeItems` puts items behind those that have to come first.
* `mixLines` puts lines in an order at random.
* `showUsage` shows how much room files take.
-/

namespace DesignAtlas.Shell.Tools

open Text

/-! ### Items that have to come first -/

/-- An item with those that have to come behind it, the last one that was named first. -/
structure OrderedItem where
  /-- The item. -/
  name : ByteText
  /-- The number of items that are still to come first. -/
  waiting : Nat
  /-- The items that come behind it. -/
  behind : List ByteText

/-- Items by their names, sorted. -/
abbrev OrderedItems : Type := List OrderedItem

namespace OrderedItems

/-- Change an item. One that is not there is put in. -/
def change (items : OrderedItems) (name : ByteText) (f : OrderedItem → OrderedItem) :
    OrderedItems :=
  match items with
  | [] => [f ⟨name, 0, []⟩]
  | item :: rest =>
    if item.name = name then f item :: rest
    else if name < item.name then f ⟨name, 0, []⟩ :: item :: rest
    else item :: change rest name f

/-- The items that pairs name. The first one of a pair comes before the second one. -/
def ofPairs : List ByteText → OrderedItems → OrderedItems
  | a :: b :: rest, items =>
    let items := change items a id
    let items := change items b id
    let items := if a = b then items
      else
        change (change items a fun item => { item with behind := b :: item.behind }) b
          fun item => { item with waiting := item.waiting + 1 }
    ofPairs rest items
  | _, items => items

/-- Take items out one after the other. What waits for them comes next once nothing else has to come
first. -/
def release : (fuel : Nat) → List ByteText → OrderedItems → List ByteText →
    OrderedItems × List ByteText
  | 0, _, items, done => (items, done)
  | _ + 1, [], items, done => (items, done)
  | fuel + 1, name :: queue, items, done =>
    let followers := ((items.find? (·.name == name)).map (·.behind)).getD []
    let items := items.filter (·.name != name)
    let (items, ready) := followers.foldl (fun (state : OrderedItems × List ByteText) follower =>
      let items := change state.1 follower fun item => { item with waiting := item.waiting - 1 }
      let isReady := items.any fun item => item.name == follower && item.waiting == 0
      (items, if isReady then state.2 ++ [follower] else state.2)) (items, [])
    release fuel (queue ++ ready) items (name :: done)

/-- Walk through the items and follow a way back until it comes to an item again. Gives the items of
the loop, and the items without the step that closes it. -/
def loop? : (fuel : Nat) → (way : List ByteText) → OrderedItems →
    Option (List ByteText × OrderedItems)
  | 0, _, _ => none
  | fuel + 1, way, items =>
    let step (state : List ByteText × Option (List ByteText × OrderedItems)) (item : OrderedItem) :
        List ByteText × Option (List ByteText × OrderedItems) :=
      match state with
      | (way, some found) => (way, some found)
      | (way, none) =>
        if item.waiting = 0 then (way, none)
        else
          match way with
          | [] => ([item.name], none)
          | here :: _ =>
            if !item.behind.contains here then (way, none)
            else if (way.dropLast).contains item.name then
              let part := way.takeWhile (· != item.name) ++ [item.name]
              let items := change items item.name fun i =>
                { i with behind := i.behind.erase here }
              let items := change items here fun i => { i with waiting := i.waiting - 1 }
              (way, some (part, items))
            else (item.name :: way, none)
    match items.foldl step (way, none) with
    | (_, some found) => some found
    | (way, none) => loop? fuel way items

end OrderedItems

/-- Put items in order. -/
def arrangeItems : Tool := fun c =>
  c.withOptions 1 "" [] fun o => do
    match o.operands with
    | _ :: extra :: _ => c.misused 1 ("extra operand " ++ quotedName extra)
    | operands =>
      let path := operands.headD "-"
      match ← contentOf path with
      | .error fault =>
        c.fail 1 (shownName path ++ ": " ++
          (if fault matches .directory then "read error: " else "") ++ fault.reason)
      | .ok content =>
        let words := (content.toList.splitBy fun a b => isGap a == isGap b).filter fun word =>
          !(word.head?.any isGap)
        if words.length % 2 = 1 then
          return ← c.fail 1 (shownName path ++ ": input contains an odd number of tokens")
        let rec go : (fuel : Nat) → OrderedItems → (fine : Bool) → Run Bool
          | 0, _, fine => return fine
          | fuel + 1, items, fine => do
            let ready := (items.filter (·.waiting == 0)).map (·.name)
            let (left, done) := OrderedItems.release (words.length + 1) ready items []
            writeLines done.reverse
            if left.isEmpty then return fine
            c.say (shownName path ++ ": input contains a loop:")
            match OrderedItems.loop? (left.length * left.length + 4) [] left with
            | none => return false
            | some (part, items) =>
              for name in part do c.say name
              go fuel items false
        let fine ← go (words.length + 1) (OrderedItems.ofPairs (words.map String.ofList) []) true
        return statusOf fine
where
  /-- Whether a character stands between items. -/
  isGap (c : Char) : Bool := c == ' ' || c == '\t' || c == '\n'

/-! ### Orders at random -/

/-- Items in an order that a number makes. -/
def mixed {α : Type} : (fuel : Nat) → (seed : Nat) → List α → List α × Nat
  | 0, seed, items => (items, seed)
  | _ + 1, seed, [] => ([], seed)
  | fuel + 1, seed, first :: rest =>
    let seed := (seed * 1103515245 + 12345) % Nat.pow 2 31
    let items := first :: rest
    let i := seed / 65536 % items.length
    let (others, seed) := mixed fuel seed (items.eraseIdx i)
    ((items[i]?).getD first :: others, seed)

/-- Put lines in an order at random. -/
def mixLines : Tool := fun c =>
  c.withOptions 1 "ei:n:o:rz"
      [("echo", 'e', .never), ("input-range", 'i', .always), ("head-count", 'n', .always),
        ("output", 'o', .always), ("repeat", 'r', .never), ("zero-terminated", 'z', .never)]
      fun o => do
    let range? : Option (Option (Nat × Nat)) := (o.value? 'i').map fun text =>
      match text.splitOn "-" with
      | [low, high] =>
        let limit? (text : ByteText) : Option Nat := (natural? text).filter fun _ => text != ""
        match limit? low, limit? high with
        | some a, some b => if a ≤ b + 1 then some (a, b) else none
        | _, _ => none
      | _ => none
    match range?, (o.value? 'n').filter fun t => (natural? t).isNone || t.isEmpty with
    | some none, _ => c.fail 1 ("invalid input range: " ++ quotedName ((o.value? 'i').getD ""))
    | _, some text => c.fail 1 ("invalid line count: " ++ quotedName text)
    | range?, none =>
      let lineEnd : Char := if o.has 'z' then '\x00' else '\n'
      let items? : Except (Run Nat) (List ByteText) ←
        match range?, o.has 'e', o.operands with
        | some (some (a, b)), _, [] =>
          pure (.ok ((List.range (b + 1 - a)).map fun i => Nat.repr (a + i)))
        | some _, _, extra :: _ =>
          pure (.error (c.misused 1 ("extra operand " ++ quotedName extra)))
        | _, true, operands => pure (.ok operands)
        | _, false, _ :: extra :: _ =>
          pure (.error (c.misused 1 ("extra operand " ++ quotedName extra)))
        | _, false, operands => do
          match ← contentOf (operands.headD "-") with
          | .error fault =>
            pure (.error (c.fail 1 (shownName (operands.headD "-") ++ ": " ++ fault.reason)))
          | .ok content =>
            pure (.ok ((splitLines lineEnd content.toList).map fun line =>
              String.ofList (unended lineEnd line)))
      match items? with
      | .error work => work
      | .ok items =>
        let (order, seed) := mixed (items.length + 1) (← get).seed items
        modify fun s => { s with seed := seed }
        let order := ((o.value? 'n').bind natural?).elim order order.take
        let text := String.join (order.map fun item => item.push lineEnd)
        match o.value? 'o' with
        | none =>
          write 1 text
          return 0
        | some path =>
          match ← putContent path false text with
          | .ok () => return 0
          | .error fault => c.fail 1 (shownName path ++ ": " ++ fault.reason)

/-! ### Room -/

/-- The room that a node takes, in units of 1024 bytes, or its size in bytes. -/
def roomOf (inBytes : Bool) : DiskNode → Nat
  | .file f => if inBytes then f.content.length else (f.content.length + 4095) / 4096 * 4
  | .directory _ => if inBytes then 4096 else 4
  | .link target => if inBytes then target.utf8ByteSize else 0
  | _ => 0

/-- Show the room that a path takes, and give it. -/
def usageOf (o : FoundOptions) (s : Session) : (depth : Nat) → (isTop : Bool) → ByteText →
    Address → Nat × List (Nat × ByteText)
  | 0, _, _, _ => (0, [])
  | depth + 1, isTop, path, address =>
    match s.disk.node? address with
    | none => (0, [])
    | some node =>
      let own := roomOf (o.has 'b') node
      match node with
      | .directory _ =>
        let parts := (s.namesInside address).map fun name =>
          usageOf o s depth false (pathIn path name) (address ++ [ByteText.toText name])
        let sum := own + Number.total (parts.map (·.1))
        let inner := if o.has 's' then [] else (parts.map (·.2)).flatten
        (sum, inner ++ (if isTop || !o.has 's' then [(sum, path)] else []))
      | _ => (own, if isTop || (o.has 'a' && !o.has 's') then [(own, path)] else [])

/-- Show the room that files take. -/
def showUsage : Tool := fun c =>
  c.withOptions 1 "abchkms0"
      [("all", 'a', .never), ("bytes", 'b', .never), ("total", 'c', .never),
        ("human-readable", 'h', .never), ("summarize", 's', .never), ("null", '0', .never)]
      fun o => do
    let shownSize (n : Nat) : ByteText :=
      if o.has 'h' && !o.has 'b' then
        if n = 0 then "0"
        else if n < 10 then Nat.repr n ++ ".0K"
        else if n < 1024 then Nat.repr n ++ "K"
        else Nat.repr ((n + 1023) / 1024) ++ "M"
      else if o.has 'm' then Nat.repr ((n + 1023) / 1024)
      else Nat.repr n
    let lineEnd := if o.has '0' then "\x00" else "\n"
    let line (size : Nat) (path : ByteText) : ByteText := shownSize size ++ "\t" ++ path ++ lineEnd
    let mut fine := true
    let mut total := 0
    for path in (if o.operands.isEmpty then ["."] else o.operands) do
      let s ← get
      match s.disk.reach .entry s.directory ⟨ByteText.toText path⟩ with
      | .error fault =>
        fine := false
        c.say ("cannot access " ++ quotedName path ++ ": " ++ fault.reason)
      | .ok address =>
        let (sum, parts) := usageOf o s (Disk.maxPathLength + 1) true path address
        total := total + sum
        write 1 (String.join (parts.map fun p => line p.1 p.2))
    if o.has 'c' then write 1 (line total "total")
    return statusOf fine

end DesignAtlas.Shell.Tools
