import Chip8.Machine.Work

/-!
# Carrying out instructions

The work of each instruction, on a machine whose counter already points past it.
-/

namespace Chip8

/-- The register that a shift reads. -/
def shiftOperand (dialect : Dialect) (x y : UInt8) : UInt8 :=
  match dialect.shiftSource with
  | .vx => x
  | .vy => y

/-- The hundreds, tens and ones of a byte. -/
def decimalDigits (v : UInt8) : List UInt8 := [v / 100, v / 10 % 10, v % 10]

namespace Instruction

variable {ρ : Type}

open Work in
/-- Carry out an instruction. -/
def carryOut [RandomSource ρ] : Instruction → Work ρ Unit
  | .sys addr => do
    match (← get).dialect.sysCalls with
    | .ignore => pure ()
    | .fault => throw (.fault (.unknownOpcode addr))
  | .clear => modify fun m => { m with screen := .blank }
  | .ret => do
    let addr ← pop
    goto addr
  | .jump addr => goto addr
  | .call addr => do
    push (← get).registers.pc
    goto addr
  | .skipEqByte x nn => do
    let vx ← reg x
    skipIf (vx == nn)
  | .skipNeByte x nn => do
    let vx ← reg x
    skipIf (vx != nn)
  | .skipEq x y => do
    let vx ← reg x
    let vy ← reg y
    skipIf (vx == vy)
  | .loadByte x nn => setReg x nn
  | .addByte x nn => do
    let vx ← reg x
    setReg x (vx + nn)
  | .move x y => do
    let vy ← reg y
    setReg x vy
  | .or x y => do
    let vx ← reg x
    let vy ← reg y
    setReg x (vx ||| vy)
  | .and x y => do
    let vx ← reg x
    let vy ← reg y
    setReg x (vx &&& vy)
  | .xor x y => do
    let vx ← reg x
    let vy ← reg y
    setReg x (vx ^^^ vy)
  | .add x y => do
    let vx ← reg x
    let vy ← reg y
    setRegFlag x (vx + vy) (0xFF < vx.toNat + vy.toNat)
  | .sub x y => do
    let vx ← reg x
    let vy ← reg y
    setRegFlag x (vx - vy) (vy ≤ vx)
  | .shiftRight x y => do
    let v ← reg (shiftOperand (← get).dialect x y)
    setRegFlag x (v >>> 1) (v &&& 0x01 != 0)
  | .subFrom x y => do
    let vx ← reg x
    let vy ← reg y
    setRegFlag x (vy - vx) (vx ≤ vy)
  | .shiftLeft x y => do
    let v ← reg (shiftOperand (← get).dialect x y)
    setRegFlag x (v <<< 1) (v &&& 0x80 != 0)
  | .skipNe x y => do
    let vx ← reg x
    let vy ← reg y
    skipIf (vx != vy)
  | .loadIndex addr => setIndex addr
  | .jumpOffset addr => do
    let v0 ← reg 0
    let target ← of (offsetAddr addr v0.toUInt16)
    goto target
  | .random x nn => do
    let byte ← randomByte
    setReg x (byte &&& nn)
  | .draw x y n => do
    let sprite ← bytesAtIndex n.toNat
    let vx ← reg x
    let vy ← reg y
    let collision ← drawSprite vx vy sprite
    setFlag collision
  | .skipKeyDown x => do
    let vx ← reg x
    skipIf ((← get).keypad.isDown vx)
  | .skipKeyUp x => do
    let vx ← reg x
    skipIf (!(← get).keypad.isDown vx)
  | .readDelay x => do
    setReg x (← get).timers.delay
  | .waitKey x => modify fun m => { m with phase := .waiting x }
  | .setDelay x => do
    let vx ← reg x
    modify fun m => { m with timers := { m.timers with delay := vx } }
  | .setSound x => do
    let vx ← reg x
    modify fun m => { m with timers := { m.timers with sound := vx } }
  | .addIndex x => do
    let vx ← reg x
    setIndex ((← get).registers.index + vx.toUInt16)
  | .loadGlyph x => do
    let vx ← reg x
    setIndex (glyphAddr vx)
  | .storeDecimal x => do
    let vx ← reg x
    writeAtIndex (decimalDigits vx)
  | .storeRegisters x => do
    let values ← regsUpTo x
    writeAtIndex values
  | .loadRegisters x => do
    let values ← bytesAtIndex (x.toNat + 1)
    setRegsUpTo x values

end Instruction

namespace Machine

variable {ρ : Type}

/-- The events of carrying out an instruction: passing over a call into machine code is one. -/
def executionLog (m : Machine ρ) : Instruction → Log
  | .sys addr =>
    match m.dialect.sysCalls with
    | .ignore => #[.ignoredSys addr]
    | .fault => #[]
  | _ => #[]

end Machine
end Chip8
