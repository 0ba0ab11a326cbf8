import Chip8.Memory

/-!
# The built-in font and power-on memory

The machine has 4096 bytes. The glyphs of the sixteen hexadecimal digits, five bytes each, lie
at `0x050`; programs are loaded at `0x200` and may fill the rest.
-/

namespace Chip8

/-- Bytes of memory in the machine. -/
abbrev memorySize : Nat := 4096

/-- Where programs are loaded. -/
def programAddr : UInt16 := 0x200

/-- Bytes from the program's address to the top of memory. -/
def maxProgramSize : Nat := memorySize - programAddr.toNat

/-- Where the font lies. -/
def fontAddr : UInt16 := 0x050

/-- Bytes in a glyph: one for each row of a sprite four pixels wide. -/
def glyphSize : UInt16 := 5

/-- The glyphs of the digits `0` to `F`. -/
def font : List UInt8 :=
  [0xF0, 0x90, 0x90, 0x90, 0xF0,
   0x20, 0x60, 0x20, 0x20, 0x70,
   0xF0, 0x10, 0xF0, 0x80, 0xF0,
   0xF0, 0x10, 0xF0, 0x10, 0xF0,
   0x90, 0x90, 0xF0, 0x10, 0x10,
   0xF0, 0x80, 0xF0, 0x10, 0xF0,
   0xF0, 0x80, 0xF0, 0x90, 0xF0,
   0xF0, 0x10, 0x20, 0x40, 0x40,
   0xF0, 0x90, 0xF0, 0x90, 0xF0,
   0xF0, 0x90, 0xF0, 0x10, 0xF0,
   0xF0, 0x90, 0xF0, 0x90, 0x90,
   0xE0, 0x90, 0xE0, 0x90, 0xE0,
   0xF0, 0x80, 0x80, 0x80, 0xF0,
   0xE0, 0x90, 0x90, 0x90, 0xE0,
   0xF0, 0x80, 0xF0, 0x80, 0xF0,
   0xF0, 0x80, 0xF0, 0x80, 0x80]

/-- The address of the glyph for the low nibble of `digit`. -/
def glyphAddr (digit : UInt8) : UInt16 := fontAddr + glyphSize * (digit &&& 0x0F).toUInt16

namespace Memory

/-- The font lies in memory. -/
theorem font_within : fontAddr.toNat + font.length ≤ memorySize := by decide

/-- A program that is not too large for it lies in memory. -/
theorem program_within {program : List UInt8} (h : ¬maxProgramSize < program.length) :
    programAddr.toNat + program.length ≤ memorySize := by
  have hp : programAddr.toNat ≤ memorySize := by decide
  unfold maxProgramSize at h
  omega

/-- Wipe memory, and put the font into it. -/
def reset (m : Memory memorySize) : Memory memorySize :=
  ⟨writeCells (fillCells m.cells 0) fontAddr.toNat font font_within⟩

/-- Memory at power on: a store of zeroes that is reset. -/
def powerOn : Memory memorySize := (zero memorySize).reset

/-- Reset memory and put a program at its address. One that does not fit is refused. -/
def load (m : Memory memorySize) (program : List UInt8) : Except Fault (Memory memorySize) :=
  if h : maxProgramSize < program.length then
    .error (.programTooLarge program.length maxProgramSize)
  else .ok ⟨writeCells m.reset.cells programAddr.toNat program (program_within h)⟩

/-- A reset leaves memory as at power on, whatever it held. -/
theorem reset_eq (m : Memory memorySize) : m.reset = powerOn := by
  simp only [powerOn, reset, fillCells_eq]

/-- At power on there are the font and zeroes in memory. -/
theorem powerOn_eq : powerOn = ⟨overwrite (zero memorySize).cells fontAddr.toNat font⟩ := by
  simp only [powerOn, reset, fillCells_eq, writeCells_eq, zero]

end Memory
end Chip8
