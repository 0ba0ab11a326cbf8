import Chip8.Random

/-!
# Seeded random bytes

A reproducible source: the ChaCha stream with twelve rounds, keyed by a 64-bit seed that a
permuted linear congruential generator spreads over the key. Each word of a block gives one
byte, its lowest.
-/

namespace Chip8

/-- A position in the stream of a key: the block that is being read, the number of the next one
and the word to be read. -/
structure ChaCha where
  key : Vector UInt32 8
  block : Vector UInt32 16
  nextBlock : UInt64
  position : Fin 16

namespace ChaCha

/-- Rotate a word to the left by `k` bits, `k` from 1 to 31. -/
def rotateLeft (w k : UInt32) : UInt32 := w <<< k ||| w >>> (32 - k)

/-- One step of the congruential generator that makes a key from a seed. -/
def scramble (s : UInt64) : UInt64 := s * 6364136223846793005 + 11634580027462260723

/-- The word that the generator shows in state `s`: a shifted mixture of the state, rotated to
the right by the state's highest five bits. -/
def permuted (s : UInt64) : UInt32 :=
  let mixed := (((s >>> 18) ^^^ s) >>> 27).toUInt32
  let amount := (s >>> 59).toUInt32
  mixed >>> amount ||| mixed <<< ((32 - amount) % 32)

/-- The key of a seed: eight words from successive states of the generator. -/
def keyOfSeed (seed : UInt64) : Vector UInt32 8 :=
  Vector.ofFn fun i => permuted (Nat.repeat scramble (i.val + 1) seed)

/-- The quarter round on four cells of the block. -/
def quarterRound (b : Vector UInt32 16) (i j k l : Fin 16) : Vector UInt32 16 :=
  let b := b.setIfInBounds i (b.get i + b.get j)
  let b := b.setIfInBounds l (rotateLeft (b.get l ^^^ b.get i) 16)
  let b := b.setIfInBounds k (b.get k + b.get l)
  let b := b.setIfInBounds j (rotateLeft (b.get j ^^^ b.get k) 12)
  let b := b.setIfInBounds i (b.get i + b.get j)
  let b := b.setIfInBounds l (rotateLeft (b.get l ^^^ b.get i) 8)
  let b := b.setIfInBounds k (b.get k + b.get l)
  b.setIfInBounds j (rotateLeft (b.get j ^^^ b.get k) 7)

/-- A round on the columns and a round on the diagonals. -/
def doubleRound (b : Vector UInt32 16) : Vector UInt32 16 :=
  let b := quarterRound b 0 4 8 12
  let b := quarterRound b 1 5 9 13
  let b := quarterRound b 2 6 10 14
  let b := quarterRound b 3 7 11 15
  let b := quarterRound b 0 5 10 15
  let b := quarterRound b 1 6 11 12
  let b := quarterRound b 2 7 8 13
  quarterRound b 3 4 9 14

/-- The block before its rounds: constants, key, block number and two words of zero. -/
def initialBlock (key : Vector UInt32 8) (number : UInt64) : Vector UInt32 16 :=
  #v[0x61707865, 0x3320646e, 0x79622d32, 0x6b206574,
     key[0], key[1], key[2], key[3], key[4], key[5], key[6], key[7],
     number.toUInt32, (number >>> 32).toUInt32, 0, 0]

/-- A block of the stream: twelve rounds, and the initial block added again. -/
def blockAt (key : Vector UInt32 8) (number : UInt64) : Vector UInt32 16 :=
  let start := initialBlock key number
  Vector.zipWith (· + ·) (Nat.repeat doubleRound 6 start) start

/-- The start of the stream of a seed. -/
def ofSeed (seed : UInt64) : ChaCha :=
  let key := keyOfSeed seed
  ⟨key, blockAt key 0, 1, 0⟩

/-- The low byte of the next word; after the last word of a block the next block is made. -/
def next (c : ChaCha) : UInt8 × ChaCha :=
  let byte := c.block[c.position].toUInt8
  if c.position = 15 then
    (byte, ⟨c.key, blockAt c.key c.nextBlock, c.nextBlock + 1, 0⟩)
  else (byte, { c with position := c.position + 1 })

instance : RandomSource ChaCha := ⟨next⟩

end ChaCha
end Chip8
