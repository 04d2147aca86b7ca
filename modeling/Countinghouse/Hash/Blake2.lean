/-!
# BLAKE2b

A hash over lists of bytes, without a key, for any size of hash up to 64 bytes. The message
is cut into blocks of 128 bytes, and each is mixed into a state of eight words in twelve
rounds. Words are read and written low byte first.
-/

namespace Countinghouse.Blake2

/-- The first eight words of the fractional parts of square roots of primes. -/
def initial : Array UInt64 :=
  #[0x6a09e667f3bcc908, 0xbb67ae8584caa73b, 0x3c6ef372fe94f82b, 0xa54ff53a5f1d36f1,
    0x510e527fade682d1, 0x9b05688c2b3e6c1f, 0x1f83d9abfb41bd6b, 0x5be0cd19137e2179]

/-- The order in which the rounds take the words of a block; after ten rounds it begins
again. -/
def schedule : List (List Nat) :=
  [[0, 1, 2, 3, 4, 5, 6, 7, 8, 9, 10, 11, 12, 13, 14, 15],
    [14, 10, 4, 8, 9, 15, 13, 6, 1, 12, 0, 2, 11, 7, 5, 3],
    [11, 8, 12, 0, 5, 2, 15, 13, 10, 14, 3, 6, 7, 1, 9, 4],
    [7, 9, 3, 1, 13, 12, 11, 14, 2, 6, 5, 10, 4, 0, 15, 8],
    [9, 0, 5, 7, 2, 4, 10, 15, 14, 1, 11, 12, 6, 8, 3, 13],
    [2, 12, 6, 10, 0, 11, 8, 3, 4, 13, 7, 5, 15, 14, 1, 9],
    [12, 5, 1, 15, 14, 13, 4, 10, 0, 7, 6, 3, 9, 2, 8, 11],
    [13, 11, 7, 14, 12, 1, 3, 9, 5, 0, 15, 4, 8, 6, 2, 10],
    [6, 15, 14, 9, 11, 3, 0, 8, 12, 2, 13, 7, 1, 4, 10, 5],
    [10, 2, 8, 4, 7, 6, 1, 5, 15, 11, 9, 14, 3, 12, 13, 0],
    [0, 1, 2, 3, 4, 5, 6, 7, 8, 9, 10, 11, 12, 13, 14, 15],
    [14, 10, 4, 8, 9, 15, 13, 6, 1, 12, 0, 2, 11, 7, 5, 3]]

/-- The places of the four words that each step of a round mixes. -/
def steps : List (Nat × Nat × Nat × Nat) :=
  [(0, 4, 8, 12), (1, 5, 9, 13), (2, 6, 10, 14), (3, 7, 11, 15),
    (0, 5, 10, 15), (1, 6, 11, 12), (2, 7, 8, 13), (3, 4, 9, 14)]

/-- Rotation to the right. -/
@[inline] def rotate (word count : UInt64) : UInt64 :=
  (word >>> count) ||| (word <<< (64 - count))

/-- Mixes two words of the message into four words of the state. -/
def mix (state : Array UInt64) (places : Nat × Nat × Nat × Nat) (x y : UInt64) :
    Array UInt64 :=
  let (i, j, k, l) := places
  let a := state.getD i 0 + state.getD j 0 + x
  let d := rotate (state.getD l 0 ^^^ a) 32
  let c := state.getD k 0 + d
  let b := rotate (state.getD j 0 ^^^ c) 24
  let a := a + b + y
  let d := rotate (d ^^^ a) 16
  let c := c + d
  let b := rotate (b ^^^ c) 63
  (((state.setIfInBounds i a).setIfInBounds j b).setIfInBounds k c).setIfInBounds l d

/-- One round: eight steps, each with the next two words in the round's order. -/
def round (message : Array UInt64) :
    List Nat → List (Nat × Nat × Nat × Nat) → Array UInt64 → Array UInt64
  | first :: second :: order, places :: rest, state =>
    round message order rest
      (mix state places (message.getD first 0) (message.getD second 0))
  | _, _, state => state

/-- The words of a block. -/
def wordsOf : List UInt8 → List UInt64
  | a :: b :: c :: d :: e :: f :: g :: h :: rest =>
    (a.toUInt64 ||| (b.toUInt64 <<< 8) ||| (c.toUInt64 <<< 16) ||| (d.toUInt64 <<< 24)
      ||| (e.toUInt64 <<< 32) ||| (f.toUInt64 <<< 40) ||| (g.toUInt64 <<< 48)
      ||| (h.toUInt64 <<< 56)) :: wordsOf rest
  | _ => []

/-- The bytes of a word. -/
def bytesOfWord (word : UInt64) : List UInt8 :=
  [word.toUInt8, (word >>> 8).toUInt8, (word >>> 16).toUInt8, (word >>> 24).toUInt8,
    (word >>> 32).toUInt8, (word >>> 40).toUInt8, (word >>> 48).toUInt8, (word >>> 56).toUInt8]

/-- Mixes a block into the chain. `total` counts the bytes up to the end of the block. -/
def absorb (chain : Array UInt64) (block : List UInt8) (total : Nat) (isLast : Bool) :
    Array UInt64 :=
  let message := (wordsOf block).toArray
  let tail := #[initial.getD 0 0, initial.getD 1 0, initial.getD 2 0, initial.getD 3 0,
    initial.getD 4 0 ^^^ UInt64.ofNat total, initial.getD 5 0 ^^^ UInt64.ofNat (total / Nat.pow 2 64),
    (if isLast then ~~~ initial.getD 6 0 else initial.getD 6 0), initial.getD 7 0]
  let mixed := schedule.foldl (fun state order => round message order steps state) (chain ++ tail)
  (Array.range 8).map fun place =>
    chain.getD place 0 ^^^ mixed.getD place 0 ^^^ mixed.getD (place + 8) 0

/-- Absorbs blocks; the last one is filled up with zeros. -/
def absorbAll : Nat → Array UInt64 → Nat → List UInt8 → Array UInt64
  | 0, chain, _, _ => chain
  | blocks + 1, chain, before, bytes =>
    let block := bytes.take 128
    let total := before + block.length
    let full := block ++ List.replicate (128 - block.length) 0
    absorbAll blocks (absorb chain full total (blocks == 0)) total (bytes.drop 128)

/-- The hash of a message in the given number of bytes, up to 64. -/
def digest (size : Nat) (message : List UInt8) : List UInt8 :=
  let start := initial.setIfInBounds 0 (initial.getD 0 0 ^^^ 0x01010000 ^^^ UInt64.ofNat size)
  let blocks := max 1 ((message.length + 127) / 128)
  ((absorbAll blocks start 0 message).toList.flatMap bytesOfWord).take size

end Countinghouse.Blake2
