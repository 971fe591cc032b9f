import DesignAtlas.Number.Total

/-!
# Digests

Numbers of a fixed size that stand for contents of any size. A content is filled up to whole blocks
and the blocks are worked into a few words, one after the other. The constants of the rounds are
digits of roots and sines, so that nobody can have chosen them.

* `Digest.ofBytes` is the digest of a content.
* `remainder32` is the remainder of a content and its length, taken for a polynomial.
* `rotatingSum` and `foldedSum` are simple sums of a content.
-/

namespace DesignAtlas.Number

/-- The greatest number whose power does not exceed a number that is below a power of two. -/
def rootOf (power n : Nat) : (bits : Nat) → Nat
  | bits =>
    (List.range bits).reverse.foldl
      (fun root i => if Nat.pow (root + Nat.pow 2 i) power ≤ n then root + Nat.pow 2 i else root) 0

/-- The first so many primes. -/
def primes (count : Nat) : List Nat :=
  ((List.range 420).filter fun n =>
    1 < n ∧ (List.range n).all fun d => d < 2 ∨ n % d ≠ 0).take count

/-- The digits of a root behind the point: so many bits, behind so many others. -/
def rootBits (power n width skipped : Nat) : Nat :=
  rootOf power (n * Nat.pow 2 (power * (width + skipped))) (width + skipped + 16) % Nat.pow 2 width

/-- The number that bytes make, the first one counting most. -/
def ofBigEndian (bytes : List UInt8) : Nat :=
  bytes.foldl (fun n b => n * 256 + b.toNat) 0

/-- So many bytes of a number, the first one counting most. -/
def toBigEndian (count n : Nat) : List UInt8 :=
  (List.range count).reverse.map fun i => UInt8.ofNat (n / Nat.pow 256 i)

/-- The parts of a list of a given size. -/
def parts {α : Type} (size : Nat) : (fuel : Nat) → List α → List (List α)
  | 0, _ => []
  | _ + 1, [] => []
  | fuel + 1, items => items.take size :: parts size fuel (items.drop size)

/-- Two values of a word under a pattern: the bits of the first one where the pattern has ones, and
those of the second one elsewhere. -/
def chosen {w : Nat} (pattern a b : BitVec w) : BitVec w :=
  (pattern &&& a) ^^^ (~~~pattern &&& b)

/-- The bits that most of three words have. -/
def majority {w : Nat} (a b c : BitVec w) : BitVec w :=
  (a &&& b) ^^^ (a &&& c) ^^^ (b &&& c)

/-! ### Families of digests -/

/-- A digest that works blocks of sixteen words into a few words. -/
structure Digest where
  /-- The number of bits of a word. -/
  width : Nat
  /-- Whether the first byte of a word counts most. -/
  isBigEndian : Bool
  /-- The words before the first block. -/
  start : List (BitVec width)
  /-- Work a block into the words. -/
  mix : List (BitVec width) → Array (BitVec width) → List (BitVec width)
  /-- The number of bytes of the result. -/
  size : Nat

namespace Digest

/-- The content filled up to whole blocks: a one, zeros, and the length in bits. -/
def padded (d : Digest) (bytes : List UInt8) : List UInt8 :=
  let word := d.width / 8
  let block := 16 * word
  let zeros := (2 * block - 1 - 2 * word - bytes.length % block) % block
  let length := toBigEndian (2 * word) (8 * bytes.length)
  bytes ++ 0x80 :: List.replicate zeros 0 ++
    (if d.isBigEndian then length else length.reverse)

/-- The words of a block. -/
def wordsOf (d : Digest) (block : List UInt8) : Array (BitVec d.width) :=
  ((parts (d.width / 8) 16 block).map fun bytes =>
    BitVec.ofNat d.width (ofBigEndian (if d.isBigEndian then bytes else bytes.reverse))).toArray

/-- The digest of a content. -/
def ofBytes (d : Digest) (bytes : List UInt8) : List UInt8 :=
  let all := d.padded bytes
  let blocks := parts (2 * d.width) (all.length + 1) all
  let words := blocks.foldl (fun words block => d.mix words (d.wordsOf block)) d.start
  let bytesOf (w : BitVec d.width) : List UInt8 :=
    let bytes := toBigEndian (d.width / 8) w.toNat
    if d.isBigEndian then bytes else bytes.reverse
  (words.flatMap bytesOf).take d.size

/-- The digits of a content's digest in base sixteen. -/
def hexOf (d : Digest) (bytes : List UInt8) : String :=
  String.join ((d.ofBytes bytes).map fun b =>
    let digits := String.ofList (Nat.toDigits 16 b.toNat)
    "".pushn '0' (2 - digits.length) ++ digits)

/-- The sum of two lists of words, word by word. -/
def added {w : Nat} (a b : List (BitVec w)) : List (BitVec w) :=
  a.zipWith (· + ·) b

/-! ### The older family -/

/-- One of four words is renewed in each of 64 rounds. -/
def mix128 (words : List (BitVec 32)) (block : Array (BitVec 32)) : List (BitVec 32) :=
  let turns := [[7, 12, 17, 22], [5, 9, 14, 20], [4, 11, 16, 23], [6, 10, 15, 21]]
  let round (state : List (BitVec 32)) (i : Nat) : List (BitVec 32) :=
    match state with
    | [a, b, c, d] =>
      let (f, place) : BitVec 32 × Nat :=
        match i / 16 with
        | 0 => (chosen b c d, i)
        | 1 => (chosen d b c, 5 * i + 1)
        | 2 => (b ^^^ c ^^^ d, 3 * i + 5)
        | _ => (c ^^^ (b ||| ~~~d), 7 * i)
      let sine := (Float.sin (Float.ofNat (i + 1))).abs * 4294967296.0
      let turn := ((turns[i / 16]?.getD [])[i % 4]?).getD 0
      let sum := a + f + BitVec.ofNat 32 sine.toUInt64.toNat + (block[place % 16]?).getD 0
      [d, b + sum.rotateLeft turn, b, c]
    | state => state
  added words ((List.range 64).foldl round words)

/-- The four words that the older family starts with. Their bytes count up and down. -/
def start128 : List (BitVec 32) :=
  [0x67452301, 0xefcdab89, 0x98badcfe, 0x10325476]

/-- The digest of 128 bits. -/
def bits128 : Digest :=
  ⟨32, false, start128, mix128, 16⟩

/-- One of five words is renewed in each of 80 rounds. -/
def mix160 (words : List (BitVec 32)) (block : Array (BitVec 32)) : List (BitVec 32) :=
  let schedule := (List.range 64).foldl (fun (w : Array (BitVec 32)) i =>
    let get (j : Nat) : BitVec 32 := (w[i + j]?).getD 0
    w.push ((get 13 ^^^ get 8 ^^^ get 2 ^^^ get 0).rotateLeft 1)) block
  let round (state : List (BitVec 32)) (i : Nat) : List (BitVec 32) :=
    match state with
    | [a, b, c, d, e] =>
      let (f, root) : BitVec 32 × Nat :=
        match i / 20 with
        | 0 => (chosen b c d, 2)
        | 1 => (b ^^^ c ^^^ d, 3)
        | 2 => (majority b c d, 5)
        | _ => (b ^^^ c ^^^ d, 10)
      let constant := BitVec.ofNat 32 (rootOf 2 (root * Nat.pow 2 60) 32)
      [a.rotateLeft 5 + f + e + constant + (schedule[i]?).getD 0, a, b.rotateLeft 30, c, d]
    | state => state
  added words ((List.range 80).foldl round words)

/-- The digest of 160 bits. -/
def bits160 : Digest :=
  ⟨32, true, start128 ++ [0xc3d2e1f0], mix160, 20⟩

/-! ### The newer family -/

/-- How the words of the newer family are turned. -/
structure Turns where
  /-- The turns of the first word of the state. -/
  first : List Nat
  /-- The turns of the fifth word of the state. -/
  fifth : List Nat
  /-- Two turns and a shift of the word that is fifteen words back. -/
  early : List Nat
  /-- Two turns and a shift of the word that is two words back. -/
  late : List Nat

/-- The word whose turns are combined. -/
def turned {w : Nat} (turns : List Nat) (x : BitVec w) : BitVec w :=
  turns.foldl (fun sum n => sum ^^^ x.rotateRight n) 0

/-- The word whose turns and shift are combined. -/
def turnedAndShifted {w : Nat} (turns : List Nat) (x : BitVec w) : BitVec w :=
  turned turns.dropLast x ^^^ (x >>> turns.getLastD 0)

/-- Two of eight words are renewed in every round. There is a constant for each round. -/
def mixNew (w : Nat) (t : Turns) (constants : List (BitVec w)) (words : List (BitVec w))
    (block : Array (BitVec w)) : List (BitVec w) :=
  let schedule := (List.range (constants.length - 16)).foldl (fun (s : Array (BitVec w)) i =>
    let get (j : Nat) : BitVec w := (s[i + j]?).getD 0
    s.push (get 0 + turnedAndShifted t.early (get 1) + get 9 +
      turnedAndShifted t.late (get 14))) block
  let round (state : List (BitVec w)) (r : BitVec w × BitVec w) : List (BitVec w) :=
    match state with
    | [a, b, c, d, e, f, g, h] =>
      let first := h + turned t.fifth e + chosen e f g + r.1 + r.2
      let second := turned t.first a + majority a b c
      [first + second, a, b, c, d + first, e, f, g]
    | state => state
  added words ((constants.zip schedule.toList).foldl round words)

/-- The turns of words of 32 bits. -/
def turns32 : Turns :=
  ⟨[2, 13, 22], [6, 11, 25], [7, 18, 3], [17, 19, 10]⟩

/-- The turns of words of 64 bits. -/
def turns64 : Turns :=
  ⟨[28, 34, 39], [14, 18, 41], [1, 8, 7], [19, 61, 6]⟩

/-- A digest of the newer family. Its constants are digits of the cube roots of primes, and it
starts with digits of the square roots of eight primes. -/
def new (width rounds : Nat) (turns : Turns) (first skipped size : Nat) : Digest :=
  let constants := (primes rounds).map fun p => BitVec.ofNat width (rootBits 3 p width 0)
  let start := ((primes (first + 8)).drop first).map fun p =>
    BitVec.ofNat width (rootBits 2 p width skipped)
  ⟨width, true, start, mixNew width turns constants, size⟩

/-- The digest of 224 bits. -/
def bits224 : Digest :=
  new 32 64 turns32 8 32 28

/-- The digest of 256 bits. -/
def bits256 : Digest :=
  new 32 64 turns32 0 0 32

/-- The digest of 384 bits. -/
def bits384 : Digest :=
  new 64 80 turns64 8 0 48

/-- The digest of 512 bits. -/
def bits512 : Digest :=
  new 64 80 turns64 0 0 64

end Digest

/-! ### Simple sums -/

/-- The remainder of a polynomial of degree 32, with one more byte behind the content. -/
def remainderStep (sum : UInt32) (byte : UInt8) : UInt32 :=
  let rec reduce : (bits : Nat) → UInt32 → UInt32
    | 0, x => x
    | bits + 1, x =>
      reduce bits (if x &&& 0x80000000 = 0 then x <<< 1 else (x <<< 1) ^^^ 0x04c11db7)
  (sum <<< 8) ^^^ reduce 8 (((sum >>> 24) ^^^ byte.toUInt32) <<< 24)

/-- The remainder of a content with its length behind it, with all bits turned. -/
def remainder32 (bytes : List UInt8) : Nat :=
  let rec lengthBytes : (fuel : Nat) → Nat → List UInt8
    | 0, _ => []
    | fuel + 1, n => if n = 0 then [] else UInt8.ofNat n :: lengthBytes fuel (n / 256)
  (~~~((bytes ++ lengthBytes 16 bytes.length).foldl remainderStep 0)).toNat

/-- The sum of all bytes in words of 16 bits that are turned for every byte. -/
def rotatingSum (bytes : List UInt8) : Nat :=
  bytes.foldl (fun sum b => ((sum / 2 + sum % 2 * 32768) + b.toNat) % 65536) 0

/-- The sum of all bytes, with what exceeds 16 bits added to the rest. -/
def foldedSum (bytes : List UInt8) : Nat :=
  let sum := total (bytes.map UInt8.toNat) % Nat.pow 2 32
  let once := sum % 65536 + sum / 65536
  once % 65536 + once / 65536

end DesignAtlas.Number
