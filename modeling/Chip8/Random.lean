/-!
# Random bytes

A source of random bytes is a state that yields a byte and its successor. Seen from a given
state it is an endless stream.
-/

namespace Chip8

/-- States that yield bytes. -/
class RandomSource (ρ : Type) where
  /-- The next byte and the state after it. -/
  next : ρ → UInt8 × ρ

namespace RandomSource

variable {ρ : Type} [RandomSource ρ]

/-- The state after `k` bytes. -/
def after (source : ρ) : Nat → ρ
  | 0 => source
  | k + 1 => after (next source).2 k

/-- Byte `k` of the stream, counting from zero. -/
def byteAt (source : ρ) (k : Nat) : UInt8 := (next (after source k)).1

/-- One more byte may be taken last as well as first. -/
theorem after_succ (source : ρ) (k : Nat) : after source (k + 1) = (next (after source k)).2 := by
  induction k generalizing source with
  | zero => rfl
  | succ k ih => rw [after, ih, after]

/-- The state after some bytes and then some more. -/
theorem after_add (source : ρ) (j k : Nat) : after source (j + k) = after (after source j) k := by
  induction j generalizing source with
  | zero => rw [Nat.zero_add, after]
  | succ j ih => rw [Nat.succ_add, after, ih, after]

end RandomSource

/-- A fixed list of bytes, played round and round from a position. -/
structure Cyclic where
  bytes : Array UInt8
  position : Nat

namespace Cyclic

/-- Play a list from its start. -/
def ofList (bytes : List UInt8) : Cyclic := ⟨bytes.toArray, 0⟩

/-- The byte at the position, then a step around the list. The empty list plays zeroes. -/
def next (c : Cyclic) : UInt8 × Cyclic :=
  (c.bytes[c.position]?.getD 0, { c with position := (c.position + 1) % max c.bytes.size 1 })

instance : RandomSource Cyclic := ⟨next⟩

end Cyclic
end Chip8
