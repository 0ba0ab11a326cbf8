import Chip8.Bytes
import Chip8.Fault

/-!
# Memory

A bounded store of bytes. Every access is checked before anything is read or changed, nothing
wraps around the top, and a refused access names the first byte that does not exist.
-/

namespace Chip8

/-- A store of `n` bytes, addressed from zero. -/
structure Memory (n : Nat) where
  cells : Vector UInt8 n
  deriving DecidableEq

namespace Memory

variable {n : Nat}

/-- A store of zeroes. -/
def zero (n : Nat) : Memory n := ⟨Vector.replicate n 0⟩

/-- The first byte at or after `addr` that a store of `n` bytes lacks. -/
def missing (n : Nat) (addr : UInt16) : Fault := .outOfBounds (max addr.toNat n)

/-- The end of an access to `length` bytes from `addr` on can be counted in 64 bits. -/
def HasEnd (addr : UInt16) (length : Nat) : Prop :=
  addr.toNat + length < 0x10000000000000000

/-- Check that `length` bytes exist from `addr` on, and prove it. The end of an access is counted in
64 bits. -/
def check (n : Nat) (addr : UInt16) (length : Nat) :
    Except Trap (PLift (addr.toNat + length ≤ n)) :=
  if 0x10000000000000000 ≤ addr.toNat + length then .error (.misuse (.extentOverflow addr length))
  else if h : n < addr.toNat + length then .error (.fault (missing n addr))
  else .ok ⟨Nat.le_of_not_lt h⟩

/-- The `length` bytes from `addr` on. -/
def slice (m : Memory n) (addr : UInt16) (length : Nat) : Except Trap (List UInt8) :=
  match check n addr length with
  | .error e => .error e
  | .ok within => .ok (readCells m.cells addr.toNat length within.down)

/-- Put `data` at `addr`, all of it or nothing. -/
def write (m : Memory n) (addr : UInt16) (data : List UInt8) : Except Trap (Memory n) :=
  match check n addr data.length with
  | .error e => .error e
  | .ok within => .ok ⟨writeCells m.cells addr.toNat data within.down⟩

/-- The byte at `addr`. -/
def readByte (m : Memory n) (addr : UInt16) : Except Fault UInt8 :=
  if h : addr.toNat + 1 ≤ n then .ok m.cells[addr.toNat] else .error (missing n addr)

/-- Put one byte at `addr`. -/
def writeByte (m : Memory n) (addr : UInt16) (value : UInt8) : Except Trap (Memory n) :=
  m.write addr [value]

/-- A word of two bytes, the high byte first. -/
def bigEndian (high low : UInt8) : UInt16 := UInt16.ofNat (256 * high.toNat + low.toNat)

/-- The big-endian word at `addr`. -/
def readWord (m : Memory n) (addr : UInt16) : Except Fault UInt16 :=
  if h : addr.toNat + 2 ≤ n then .ok (bigEndian m.cells[addr.toNat] m.cells[addr.toNat + 1])
  else .error (missing n addr)

/-- The value of a big-endian word. -/
theorem toNat_bigEndian (high low : UInt8) :
    (bigEndian high low).toNat = 256 * high.toNat + low.toNat := by
  have hh := high.toNat_lt
  have hl := low.toNat_lt
  rw [bigEndian, UInt16.toNat_ofNat_of_lt' (by simp [UInt16.size]; omega)]

/-- Few bytes end where they can be counted, whatever their address. -/
theorem hasEnd_of_le (addr : UInt16) {length : Nat} (h : length ≤ 256) : HasEnd addr length := by
  have := addr.toNat_lt
  unfold HasEnd
  omega

end Memory
end Chip8
