/-!
# SHA-256

A hash of 32 bytes over lists of bytes: the message is padded to whole blocks of 64 bytes,
and each block is mixed into a state of eight words. `Sha256.keyed` is the hash under a key.
-/

namespace Countinghouse.Sha256

/-- The chaining state. -/
structure State where
  a : UInt32
  b : UInt32
  c : UInt32
  d : UInt32
  e : UInt32
  f : UInt32
  g : UInt32
  h : UInt32
  deriving DecidableEq, Repr, Inhabited

/-- The state before the first block. -/
def initial : State :=
  ⟨0x6a09e667, 0xbb67ae85, 0x3c6ef372, 0xa54ff53a, 0x510e527f, 0x9b05688c, 0x1f83d9ab,
    0x5be0cd19⟩

/-- The constant of each of the 64 rounds. -/
def roundConstants : List UInt32 :=
  [0x428a2f98, 0x71374491, 0xb5c0fbcf, 0xe9b5dba5, 0x3956c25b, 0x59f111f1, 0x923f82a4,
    0xab1c5ed5, 0xd807aa98, 0x12835b01, 0x243185be, 0x550c7dc3, 0x72be5d74, 0x80deb1fe,
    0x9bdc06a7, 0xc19bf174, 0xe49b69c1, 0xefbe4786, 0x0fc19dc6, 0x240ca1cc, 0x2de92c6f,
    0x4a7484aa, 0x5cb0a9dc, 0x76f988da, 0x983e5152, 0xa831c66d, 0xb00327c8, 0xbf597fc7,
    0xc6e00bf3, 0xd5a79147, 0x06ca6351, 0x14292967, 0x27b70a85, 0x2e1b2138, 0x4d2c6dfc,
    0x53380d13, 0x650a7354, 0x766a0abb, 0x81c2c92e, 0x92722c85, 0xa2bfe8a1, 0xa81a664b,
    0xc24b8b70, 0xc76c51a3, 0xd192e819, 0xd6990624, 0xf40e3585, 0x106aa070, 0x19a4c116,
    0x1e376c08, 0x2748774c, 0x34b0bcb5, 0x391c0cb3, 0x4ed8aa4a, 0x5b9cca4f, 0x682e6ff3,
    0x748f82ee, 0x78a5636f, 0x84c87814, 0x8cc70208, 0x90befffa, 0xa4506ceb, 0xbef9a3f7,
    0xc67178f2]

/-- Rotation to the right. -/
def rotate (word count : UInt32) : UInt32 := (word >>> count) ||| (word <<< (32 - count))

/-- One round with its word of the schedule and its constant. -/
def round (state : State) (word constant : UInt32) : State :=
  let upper := rotate state.e 6 ^^^ rotate state.e 11 ^^^ rotate state.e 25
  let choice := (state.e &&& state.f) ^^^ (~~~state.e &&& state.g)
  let first := state.h + upper + choice + constant + word
  let lower := rotate state.a 2 ^^^ rotate state.a 13 ^^^ rotate state.a 22
  let majority := (state.a &&& state.b) ^^^ (state.a &&& state.c) ^^^ (state.b &&& state.c)
  ⟨first + (lower + majority), state.a, state.b, state.c, state.d + first, state.e, state.f,
    state.g⟩

/-- The next word of the schedule, from the sixteen before it. -/
def nextWord (window : List UInt32) : UInt32 :=
  let early := window.getD 1 0
  let late := window.getD 14 0
  (rotate late 17 ^^^ rotate late 19 ^^^ (late >>> 10)) + window.getD 9 0
    + (rotate early 7 ^^^ rotate early 18 ^^^ (early >>> 3)) + window.getD 0 0

/-- Runs the rounds; the window holds the next sixteen words of the schedule. -/
def rounds : List UInt32 → List UInt32 → State → State
  | [], _, state => state
  | constant :: rest, window, state =>
    rounds rest (window.drop 1 ++ [nextWord window]) (round state (window.getD 0 0) constant)

/-- The words of a block, high byte first. -/
def wordsOf : List UInt8 → List UInt32
  | first :: second :: third :: fourth :: rest =>
    ((first.toUInt32 <<< 24) ||| (second.toUInt32 <<< 16) ||| (third.toUInt32 <<< 8)
      ||| fourth.toUInt32) :: wordsOf rest
  | _ => []

/-- Mixes one block into the state. -/
def absorb (state : State) (block : List UInt8) : State :=
  let mixed := rounds roundConstants (wordsOf block) state
  ⟨state.a + mixed.a, state.b + mixed.b, state.c + mixed.c, state.d + mixed.d,
    state.e + mixed.e, state.f + mixed.f, state.g + mixed.g, state.h + mixed.h⟩

/-- The bytes of a word, high byte first. -/
def bytesOfWord (word : UInt32) : List UInt8 :=
  [(word >>> 24).toUInt8, (word >>> 16).toUInt8, (word >>> 8).toUInt8, word.toUInt8]

/-- A number below 2^64 as eight bytes, high byte first. -/
def bytesOfLength (bits : Nat) : List UInt8 :=
  (List.range 8).map fun place => UInt8.ofNat (bits / Nat.pow 256 (7 - place) % 256)

/-- The message followed by one set bit, zeros, and its length in bits: whole blocks. -/
def padded (message : List UInt8) : List UInt8 :=
  let length := message.length
  message ++ 0x80 :: List.replicate ((119 - length % 64) % 64) 0 ++ bytesOfLength (length * 8)

/-- Absorbs the blocks of a padded message. -/
def absorbAll (bytes : List UInt8) (state : State) : State :=
  if bytes.length < 64 then state
  else absorbAll (bytes.drop 64) (absorb state (bytes.take 64))
termination_by bytes.length
decreasing_by simp only [List.length_drop]; omega

/-- The 32 bytes of a state. -/
def State.bytes (state : State) : List UInt8 :=
  [state.a, state.b, state.c, state.d, state.e, state.f, state.g, state.h].flatMap bytesOfWord

/-- The hash of a message: 32 bytes. -/
def digest (message : List UInt8) : List UInt8 := (absorbAll (padded message) initial).bytes

/-- The keyed hash: the message is hashed behind the key that is marked in one way, and that
hash once more behind the key that is marked in another. A key longer than a block is hashed
first, a shorter one is filled up with zeros. -/
def keyed (key message : List UInt8) : List UInt8 :=
  let short := if 64 < key.length then digest key else key
  let block := short ++ List.replicate (64 - short.length) 0
  digest (block.map (· ^^^ 0x5c) ++ digest (block.map (· ^^^ 0x36) ++ message))

end Countinghouse.Sha256
