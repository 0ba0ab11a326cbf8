import Chip8.Bytes
import Chip8.Fault
import Chip8.Font

/-!
# Registers

Sixteen byte registers V0 to VF, the index register I and the program counter. Instructions
name a byte register by a selector; one of 16 or more is a misuse.
-/

namespace Chip8

/-- V0 to VF, I and the program counter. -/
structure Registers where
  v : Vector UInt8 16
  index : UInt16
  pc : UInt16
  deriving DecidableEq

namespace Registers

/-- The register that holds carries, borrows and collisions: VF. -/
def flag : UInt8 := 15

/-- Registers at power on: all zero, with the counter at the program's address. -/
def powerOn : Registers := ⟨Vector.replicate 16 0, 0, programAddr⟩

/-- Read register `x`. -/
def get (r : Registers) (x : UInt8) : Except Misuse UInt8 :=
  if h : x.toNat < 16 then .ok r.v[x.toNat] else .error (.noSuchRegister x)

/-- Write register `x`. -/
def set (r : Registers) (x value : UInt8) : Except Misuse Registers :=
  if h : x.toNat < 16 then .ok { r with v := r.v.set x.toNat value }
  else .error (.noSuchRegister x)

/-- Write one or zero to the flag register. -/
def setFlag (r : Registers) (on : Bool) : Registers :=
  { r with v := r.v.set 15 (if on then 1 else 0) }

/-- V0 to a register that exists are among the sixteen. -/
theorem upTo_within {x : UInt8} (h : x.toNat < 16) : 0 + (x.toNat + 1) ≤ 16 := by
  rw [Nat.zero_add]
  exact h

/-- Values for V0 to `x` and no more have a register each. -/
theorem values_within {x : UInt8} (h : x.toNat < 16) (values : List UInt8) :
    0 + (values.take (x.toNat + 1)).length ≤ 16 :=
  Nat.le_trans (Nat.add_le_add_left (List.length_take_le _ values) 0) (upTo_within h)

/-- V0 to `x`, both included. -/
def upTo (r : Registers) (x : UInt8) : Except Misuse (List UInt8) :=
  if h : x.toNat < 16 then .ok (readCells r.v 0 (x.toNat + 1) (upTo_within h))
  else .error (.noSuchRegister x)

/-- Write `values` to V0 and the registers after it, up to `x`. -/
def setUpTo (r : Registers) (x : UInt8) (values : List UInt8) : Except Misuse Registers :=
  if h : x.toNat < 16 then
    .ok { r with v := writeCells r.v 0 (values.take (x.toNat + 1)) (values_within h values) }
  else .error (.noSuchRegister x)

/-- Write `values` to V0 to `x`, one value for each register. -/
def fill (r : Registers) (x : UInt8) (values : List UInt8) : Except Misuse Registers :=
  if values.length = x.toNat + 1 then r.setUpTo x values
  else .error (.countMismatch values.length (x.toNat + 1))

/-- Step past the next instruction; the counter wraps at 16 bits. -/
def skip (r : Registers) : Registers := { r with pc := r.pc + 2 }

/-- A selector below 16 names a register. -/
theorem get_eq {r : Registers} {x : UInt8} (h : x.toNat < 16) : r.get x = .ok r.v[x.toNat] := by
  simp [get, h]

end Registers
end Chip8
