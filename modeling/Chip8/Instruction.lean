/-!
# Instructions

One constructor for each row of the instruction table. In a row's word, `X` and `Y` are register
selectors, `NN` a byte, `N` a nibble and `NNN` a 12-bit address; the operands here have the
full width of their types, so that an instruction may have none.
-/

namespace Chip8

/-- An instruction and its operands. -/
inductive Instruction where
  /-- `0NNN`: call machine code at an address. -/
  | sys (addr : UInt16)
  /-- `00E0`: make the picture dark. -/
  | clear
  /-- `00EE`: go back to the newest pending return address. -/
  | ret
  /-- `1NNN`: go to an address. -/
  | jump (addr : UInt16)
  /-- `2NNN`: go to an address and note where to return. -/
  | call (addr : UInt16)
  /-- `3XNN`: skip if VX is the byte. -/
  | skipEqByte (x nn : UInt8)
  /-- `4XNN`: skip if VX is not the byte. -/
  | skipNeByte (x nn : UInt8)
  /-- `5XY0`: skip if VX is VY. -/
  | skipEq (x y : UInt8)
  /-- `6XNN`: put the byte into VX. -/
  | loadByte (x nn : UInt8)
  /-- `7XNN`: add the byte to VX; no carry is noted. -/
  | addByte (x nn : UInt8)
  /-- `8XY0`: put VY into VX. -/
  | move (x y : UInt8)
  /-- `8XY1`: bitwise or into VX. -/
  | or (x y : UInt8)
  /-- `8XY2`: bitwise and into VX. -/
  | and (x y : UInt8)
  /-- `8XY3`: bitwise exclusive or into VX. -/
  | xor (x y : UInt8)
  /-- `8XY4`: add VY to VX and note the carry. -/
  | add (x y : UInt8)
  /-- `8XY5`: take VY from VX and note that nothing was borrowed. -/
  | sub (x y : UInt8)
  /-- `8XY6`: shift right by one bit and note the bit that fell out. -/
  | shiftRight (x y : UInt8)
  /-- `8XY7`: VX becomes VY less VX, noting that nothing was borrowed. -/
  | subFrom (x y : UInt8)
  /-- `8XYE`: shift left by one bit and note the bit that fell out. -/
  | shiftLeft (x y : UInt8)
  /-- `9XY0`: skip if VX is not VY. -/
  | skipNe (x y : UInt8)
  /-- `ANNN`: put an address into I. -/
  | loadIndex (addr : UInt16)
  /-- `BNNN`: go to an address plus V0. -/
  | jumpOffset (addr : UInt16)
  /-- `CXNN`: put a random byte into VX, keeping only the bits of the byte. -/
  | random (x nn : UInt8)
  /-- `DXYN`: draw the N bytes at I as a sprite at column VX, row VY. -/
  | draw (x y n : UInt8)
  /-- `EX9E`: skip if the key VX is down. -/
  | skipKeyDown (x : UInt8)
  /-- `EXA1`: skip if the key VX is up. -/
  | skipKeyUp (x : UInt8)
  /-- `FX07`: put the delay timer into VX. -/
  | readDelay (x : UInt8)
  /-- `FX0A`: wait for a key and put its number into VX. -/
  | waitKey (x : UInt8)
  /-- `FX15`: set the delay timer to VX. -/
  | setDelay (x : UInt8)
  /-- `FX18`: set the sound timer to VX. -/
  | setSound (x : UInt8)
  /-- `FX1E`: add VX to I. -/
  | addIndex (x : UInt8)
  /-- `FX29`: point I at the glyph of the digit VX. -/
  | loadGlyph (x : UInt8)
  /-- `FX33`: store the three decimal digits of VX at I. -/
  | storeDecimal (x : UInt8)
  /-- `FX55`: store V0 to VX at I. -/
  | storeRegisters (x : UInt8)
  /-- `FX65`: load V0 to VX from I. -/
  | loadRegisters (x : UInt8)
  deriving DecidableEq

end Chip8
