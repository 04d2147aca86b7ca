import Countinghouse.Hash.Blake2

/-!
# Argon2

A password hash in three variants and two versions. A matrix of blocks of 128 words is
filled lane by lane; each new block mixes the one before it with one that is chosen from
those already there, and the variants differ in how it is chosen. The number of blocks and
of passes makes the hash as slow as is wanted.
-/

namespace Countinghouse.Argon2

/-- How the block to mix with is chosen. -/
inductive Variant where
  /-- By the content of the block before. -/
  | dependent
  /-- By a sequence that does not depend on the password. -/
  | independent
  /-- By the sequence for the first half of the first pass, then by content. -/
  | hybrid
  deriving DecidableEq, Repr, Inhabited

/-- The number of a variant. -/
def Variant.code : Variant → Nat
  | .dependent => 0
  | .independent => 1
  | .hybrid => 2

/-- The versions of the function. -/
inductive Version where
  /-- Later passes overwrite the blocks. -/
  | overwriting
  /-- Later passes mix new blocks into the old ones. -/
  | mixing
  deriving DecidableEq, Repr, Inhabited

/-- The number of a version. -/
def Version.code : Version → Nat
  | .overwriting => 16
  | .mixing => 19

/-- How much work a hash is. -/
structure Cost where
  /-- In blocks of 1024 bytes. -/
  memory : Nat
  passes : Nat
  lanes : Nat
  deriving DecidableEq, Repr, Inhabited

/-- Two words of a block. -/
structure Pair where
  low : UInt64
  high : UInt64
  deriving Inhabited

/-- 64 pairs of words. -/
abbrev Block := Array Pair

/-- A block of zeros. -/
def zeroBlock : Block := Array.replicate 64 ⟨0, 0⟩

/-- Addition that also multiplies the lower halves. -/
@[inline] def blend (first second : UInt64) : UInt64 :=
  first + second + 2 * (first &&& 0xffffffff) * (second &&& 0xffffffff)

/-- One step of mixing on four words, passed on to a continuation. -/
@[inline] def mix {α : Type} (a b c d : UInt64)
    (next : UInt64 → UInt64 → UInt64 → UInt64 → α) : α :=
  let a := blend a b
  let d := Blake2.rotate (d ^^^ a) 32
  let c := blend c d
  let b := Blake2.rotate (b ^^^ c) 24
  let a := blend a b
  let d := Blake2.rotate (d ^^^ a) 16
  let c := blend c d
  let b := Blake2.rotate (b ^^^ c) 63
  next a b c d

/-- Permutes sixteen words of a block: the eight pairs from `start` in steps of `stride`. -/
def permute (block : Block) (start stride : Nat) : Block :=
  let p0 := block.getD start default
  let p1 := block.getD (start + stride) default
  let p2 := block.getD (start + 2 * stride) default
  let p3 := block.getD (start + 3 * stride) default
  let p4 := block.getD (start + 4 * stride) default
  let p5 := block.getD (start + 5 * stride) default
  let p6 := block.getD (start + 6 * stride) default
  let p7 := block.getD (start + 7 * stride) default
  mix p0.low p2.low p4.low p6.low fun v0 v4 v8 v12 =>
  mix p0.high p2.high p4.high p6.high fun v1 v5 v9 v13 =>
  mix p1.low p3.low p5.low p7.low fun v2 v6 v10 v14 =>
  mix p1.high p3.high p5.high p7.high fun v3 v7 v11 v15 =>
  mix v0 v5 v10 v15 fun v0 v5 v10 v15 =>
  mix v1 v6 v11 v12 fun v1 v6 v11 v12 =>
  mix v2 v7 v8 v13 fun v2 v7 v8 v13 =>
  mix v3 v4 v9 v14 fun v3 v4 v9 v14 =>
  let block := block.setIfInBounds start ⟨v0, v1⟩
  let block := block.setIfInBounds (start + stride) ⟨v2, v3⟩
  let block := block.setIfInBounds (start + 2 * stride) ⟨v4, v5⟩
  let block := block.setIfInBounds (start + 3 * stride) ⟨v6, v7⟩
  let block := block.setIfInBounds (start + 4 * stride) ⟨v8, v9⟩
  let block := block.setIfInBounds (start + 5 * stride) ⟨v10, v11⟩
  let block := block.setIfInBounds (start + 6 * stride) ⟨v12, v13⟩
  block.setIfInBounds (start + 7 * stride) ⟨v14, v15⟩

/-- The exclusive or of two blocks. -/
def xor (first second : Block) : Block :=
  Array.zipWith (fun left right => ⟨left.low ^^^ right.low, left.high ^^^ right.high⟩) first second

/-- Applies a change for each number below a bound. -/
def forEach (count : Nat) (change : Nat → Block → Block) (block : Block) : Block :=
  go count 0 block
where
  /-- The changes from `index` on. -/
  go : Nat → Nat → Block → Block
    | 0, _, block => block
    | rounds + 1, index, block => go rounds (index + 1) (change index block)

/-- Compresses two blocks into one: their exclusive or, permuted by rows and then by
columns, and the exclusive or again. -/
def compress (first second : Block) : Block :=
  let input := xor first second
  let rows := forEach 8 (fun row block => permute block (8 * row) 1) input
  let columns := forEach 8 (fun column block => permute block column 8) rows
  xor input columns

/-- A number in four bytes, low byte first. -/
def bytes4 (value : Nat) : List UInt8 :=
  [UInt8.ofNat value, UInt8.ofNat (value / 256), UInt8.ofNat (value / 65536),
    UInt8.ofNat (value / 16777216)]

/-- The hash of any length: chained hashes of 64 bytes, of which half is used. -/
def longHash (size : Nat) (message : List UInt8) : List UInt8 :=
  let input := bytes4 size ++ message
  if size ≤ 64 then Blake2.digest size input
  else
    let count := (size + 31) / 32 - 2
    chain count (Blake2.digest 64 input) (size - 32 * count)
where
  /-- Half of each hash, and at last a whole one of `last` bytes. -/
  chain : Nat → List UInt8 → Nat → List UInt8
    | 0, _, _ => []
    | 1, value, last => value.take 32 ++ Blake2.digest last value
    | count + 1, value, last => value.take 32 ++ chain count (Blake2.digest 64 value) last

/-- The block that bytes encode. -/
def blockOf (bytes : List UInt8) : Block := (pairs (Blake2.wordsOf bytes)).toArray
where
  /-- Words two by two. -/
  pairs : List UInt64 → List Pair
    | low :: high :: rest => ⟨low, high⟩ :: pairs rest
    | _ => []

/-- The bytes of a block. -/
def bytesOf (block : Block) : List UInt8 :=
  block.toList.flatMap fun pair => Blake2.bytesOfWord pair.low ++ Blake2.bytesOfWord pair.high

/-- What is hashed, and how. -/
structure Input where
  variant : Variant
  version : Version
  cost : Cost
  password : List UInt8
  salt : List UInt8
  /-- Further data that the hash depends on. -/
  extra : List UInt8
  /-- The number of bytes of the hash. -/
  size : Nat

namespace Input

/-- The number of blocks in a quarter of a lane. -/
def segment (input : Input) : Nat := input.cost.memory / (4 * input.cost.lanes)

/-- The number of blocks in a lane. -/
def lane (input : Input) : Nat := 4 * input.segment

/-- The hash of everything that is put in. -/
def seed (input : Input) : List UInt8 :=
  Blake2.digest 64 (bytes4 input.cost.lanes ++ bytes4 input.size ++ bytes4 input.cost.memory
    ++ bytes4 input.cost.passes ++ bytes4 input.version.code ++ bytes4 input.variant.code
    ++ bytes4 input.password.length ++ input.password ++ bytes4 input.salt.length ++ input.salt
    ++ bytes4 0 ++ bytes4 input.extra.length ++ input.extra)

/-- The first two blocks of each lane, the others zero. -/
def start (input : Input) : Array Block :=
  let seed := input.seed
  let first (lane place : Nat) := blockOf (longHash 1024 (seed ++ bytes4 place ++ bytes4 lane))
  (List.range input.cost.lanes).foldl
    (fun matrix lane =>
      (matrix.setIfInBounds (lane * input.lane) (first lane 0)).setIfInBounds
        (lane * input.lane + 1) (first lane 1))
    (Array.replicate (input.cost.lanes * input.lane) zeroBlock)

/-- Where in the filling a segment lies. -/
structure Place where
  pass : Nat
  slice : Nat
  lane : Nat

/-- Whether the blocks to mix with are chosen by a fixed sequence. -/
def isIndependent (input : Input) (place : Place) : Bool :=
  match input.variant with
  | .dependent => false
  | .independent => true
  | .hybrid => place.pass == 0 && place.slice < 2

/-- A block of the fixed sequence; `counter` numbers them from one. -/
def addresses (input : Input) (place : Place) (counter : Nat) : Block :=
  let pair (low high : Nat) : Pair := ⟨UInt64.ofNat low, UInt64.ofNat high⟩
  let block := zeroBlock.setIfInBounds 0 (pair place.pass place.lane)
  let block := block.setIfInBounds 1 (pair place.slice (input.cost.lanes * input.lane))
  let block := block.setIfInBounds 2 (pair input.cost.passes input.variant.code)
  let block := block.setIfInBounds 3 (pair counter 0)
  compress zeroBlock (compress zeroBlock block)

/-- A word of a block. -/
def wordAt (block : Block) (index : Nat) : UInt64 :=
  let pair := block.getD (index / 2) default
  if index % 2 = 0 then pair.low else pair.high

/-- The block that random bits choose for the block at `index` of a segment. It is one of
those already there; of other lanes, only those of finished segments count. -/
def chosen (input : Input) (place : Place) (index : Nat) (random : UInt64) : Nat :=
  let low := (random &&& 0xffffffff).toNat
  let high := (random >>> 32).toNat
  let lane := if place.pass = 0 ∧ place.slice = 0 then place.lane else high % input.cost.lanes
  let finished := if place.pass = 0 then place.slice * input.segment else 3 * input.segment
  let size :=
    if lane = place.lane then finished + index - 1
    else if index = 0 then finished - 1 else finished
  let offset := size * (low * low / Nat.pow 2 32) / Nat.pow 2 32
  let first :=
    if place.pass = 0 ∨ place.slice = 3 then 0 else (place.slice + 1) * input.segment
  lane * input.lane + (first + (size - 1 - offset)) % input.lane

/-- Fills the blocks of a segment from `index` on. `sequence` is the block of the fixed
sequence in use. -/
def fillFrom (input : Input) (place : Place) :
    Nat → Nat → Block → Array Block → Array Block
  | 0, _, _, matrix => matrix
  | rounds + 1, index, sequence, matrix =>
    let current := place.lane * input.lane + place.slice * input.segment + index
    let previous := if current % input.lane = 0 then current + input.lane - 1 else current - 1
    let isIndependent := input.isIndependent place
    let sequence :=
      if isIndependent && (index % 128 == 0 || sequence.isEmpty) then
        input.addresses place (index / 128 + 1)
      else sequence
    let before := matrix.getD previous #[]
    let random :=
      if isIndependent then wordAt sequence (index % 128) else wordAt before 0
    let other := matrix.getD (input.chosen place index random) #[]
    let fresh := compress before other
    let fresh :=
      if place.pass = 0 ∨ input.version = .overwriting then fresh
      else xor (matrix.getD current #[]) fresh
    fillFrom input place rounds (index + 1) sequence (matrix.setIfInBounds current fresh)

/-- Fills one segment; the first two blocks of the matrix's first segments are given. -/
def fillSegment (input : Input) (matrix : Array Block) (place : Place) : Array Block :=
  let given := if place.pass = 0 ∧ place.slice = 0 then 2 else 0
  input.fillFrom place (input.segment - given) given #[] matrix

/-- The segments of the whole filling, in order. -/
def places (input : Input) : List Place :=
  (List.range input.cost.passes).flatMap fun pass =>
    (List.range 4).flatMap fun slice =>
      (List.range input.cost.lanes).map fun lane => ⟨pass, slice, lane⟩

/-- The hash. -/
def hash (input : Input) : List UInt8 :=
  let matrix := input.places.foldl input.fillSegment input.start
  let last := (List.range input.cost.lanes).foldl
    (fun block lane => xor block (matrix.getD ((lane + 1) * input.lane - 1) #[])) zeroBlock
  longHash input.size (bytesOf last)

end Input

end Countinghouse.Argon2
