import Chip8.Machine

/-!
# Work on a machine

The steps that instructions are made of. Each gives a result or traps, and leaves a machine
behind either way: what was done before a trap stays done.
-/

namespace Chip8

/-- Work on a machine that takes its random bytes from a source of type `ρ`. -/
abbrev Work (ρ : Type) := EStateM Trap (Machine ρ)

namespace Machine

variable {ρ : Type}

/-- Go to an address. -/
def goto (m : Machine ρ) (addr : UInt16) : Machine ρ :=
  { m with registers := { m.registers with pc := addr } }

/-- Point I at an address. -/
def setIndex (m : Machine ρ) (addr : UInt16) : Machine ρ :=
  { m with registers := { m.registers with index := addr } }

/-- Skip the next instruction if a condition holds. -/
def skipIf (m : Machine ρ) (condition : Bool) : Machine ρ :=
  if condition then { m with registers := m.registers.skip } else m

end Machine

/-- An address plus an offset that has to stay within 16 bits. -/
def offsetAddr (base offset : UInt16) : Except Trap UInt16 :=
  if base.toNat + offset.toNat < 0x10000 then .ok (base + offset)
  else .error (.misuse (.addressOverflow base offset))

namespace Work

variable {ρ : Type}

/-- Pass on a result or a trap. -/
def of {α : Type} : Except Trap α → Work ρ α
  | .ok a => pure a
  | .error e => throw e

/-- Read register `x`. -/
def reg (x : UInt8) : Work ρ UInt8 := do
  of (Trap.ofMisuse ((← get).registers.get x))

/-- Write register `x`. -/
def setReg (x value : UInt8) : Work ρ Unit := do
  let registers ← of (Trap.ofMisuse ((← get).registers.set x value))
  modify fun m => { m with registers }

/-- Write one or zero to the flag register. -/
def setFlag (on : Bool) : Work ρ Unit :=
  modify fun m => { m with registers := m.registers.setFlag on }

/-- Write register `x` and then the flag, so that the flag wins where the two are one. -/
def setRegFlag (x value : UInt8) (flag : Bool) : Work ρ Unit := do
  setReg x value
  setFlag flag

/-- V0 to `x`, both included. -/
def regsUpTo (x : UInt8) : Work ρ (List UInt8) := do
  of (Trap.ofMisuse ((← get).registers.upTo x))

/-- Write V0 to `x`, one value for each. -/
def setRegsUpTo (x : UInt8) (values : List UInt8) : Work ρ Unit := do
  let registers ← of (Trap.ofMisuse ((← get).registers.fill x values))
  modify fun m => { m with registers }

/-- Go to an address. -/
def goto (addr : UInt16) : Work ρ Unit := modify fun m => m.goto addr

/-- Point I at an address. -/
def setIndex (addr : UInt16) : Work ρ Unit := modify fun m => m.setIndex addr

/-- Skip the next instruction if a condition holds. -/
def skipIf (condition : Bool) : Work ρ Unit := modify fun m => m.skipIf condition

/-- The `length` bytes from I on. -/
def bytesAtIndex (length : Nat) : Work ρ (List UInt8) := do
  let m ← get
  of (m.memory.slice m.registers.index length)

/-- Put `data` at I. -/
def writeAtIndex (data : List UInt8) : Work ρ Unit := do
  let m ← get
  let memory ← of (m.memory.write m.registers.index data)
  set { m with memory }

/-- Note a return address. -/
def push (addr : UInt16) : Work ρ Unit := do
  let stack ← of (Trap.ofFault ((← get).stack.push addr))
  modify fun m => { m with stack }

/-- Take off the newest return address. -/
def pop : Work ρ UInt16 := do
  let (addr, stack) ← of (Trap.ofFault (← get).stack.pop)
  modify fun m => { m with stack }
  return addr

/-- Take the next random byte. -/
def randomByte [RandomSource ρ] : Work ρ UInt8 := do
  let (byte, random) := RandomSource.next (← get).random
  modify fun m => { m with random }
  return byte

/-- Draw a sprite; the result says whether a pixel was switched off. -/
def drawSprite (x y : UInt8) (sprite : List UInt8) : Work ρ Bool := do
  let (screen, collision) := (← get).screen.drawSprite x y sprite
  modify fun m => { m with screen }
  return collision

end Work
end Chip8
