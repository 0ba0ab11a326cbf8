import Chip8.Fault
import Chip8.Instruction

/-!
# The instruction table

Words are read and written by the same table. A word is split into its four nibbles; the high
nibble picks a class of rows, and within a class the low nibble, the low byte or the low twelve
bits pick the row.
-/

namespace Chip8.Instruction

/-- The high nibble of a word. -/
def classOf (word : UInt16) : Nat := word.toNat / 0x1000

/-- The second nibble of a word, the selector `X`. -/
def xOf (word : UInt16) : UInt8 := UInt8.ofNat (word.toNat / 0x100 % 0x10)

/-- The third nibble of a word, the selector `Y`. -/
def yOf (word : UInt16) : UInt8 := UInt8.ofNat (word.toNat / 0x10 % 0x10)

/-- The low nibble of a word. -/
def nOf (word : UInt16) : Nat := word.toNat % 0x10

/-- The low byte of a word. -/
def nnOf (word : UInt16) : Nat := word.toNat % 0x100

/-- The low twelve bits of a word. -/
def nnnOf (word : UInt16) : Nat := word.toNat % 0x1000

/-- The rows of class 0: two words of their own, the rest calls machine code. -/
def ofSystemWord (word : UInt16) : Instruction :=
  match nnnOf word with
  | 0x0E0 => .clear
  | 0x0EE => .ret
  | nnn => .sys (UInt16.ofNat nnn)

/-- The rows of class 8: register arithmetic, picked by the low nibble. -/
def ofArithmeticWord? (word : UInt16) : Option Instruction :=
  let x := xOf word
  let y := yOf word
  match nOf word with
  | 0x0 => some (.move x y)
  | 0x1 => some (.or x y)
  | 0x2 => some (.and x y)
  | 0x3 => some (.xor x y)
  | 0x4 => some (.add x y)
  | 0x5 => some (.sub x y)
  | 0x6 => some (.shiftRight x y)
  | 0x7 => some (.subFrom x y)
  | 0xE => some (.shiftLeft x y)
  | _ => none

/-- The rows of class E: the keys, picked by the low byte. -/
def ofKeyWord? (word : UInt16) : Option Instruction :=
  match nnOf word with
  | 0x9E => some (.skipKeyDown (xOf word))
  | 0xA1 => some (.skipKeyUp (xOf word))
  | _ => none

/-- The rows of class F: timers, I and memory, picked by the low byte. -/
def ofTransferWord? (word : UInt16) : Option Instruction :=
  let x := xOf word
  match nnOf word with
  | 0x07 => some (.readDelay x)
  | 0x0A => some (.waitKey x)
  | 0x15 => some (.setDelay x)
  | 0x18 => some (.setSound x)
  | 0x1E => some (.addIndex x)
  | 0x29 => some (.loadGlyph x)
  | 0x33 => some (.storeDecimal x)
  | 0x55 => some (.storeRegisters x)
  | 0x65 => some (.loadRegisters x)
  | _ => none

/-- The instruction that a word stands for, if any. -/
def ofWord? (word : UInt16) : Option Instruction :=
  let x := xOf word
  let y := yOf word
  let nn := UInt8.ofNat (nnOf word)
  let nnn := UInt16.ofNat (nnnOf word)
  match classOf word with
  | 0x0 => some (ofSystemWord word)
  | 0x1 => some (.jump nnn)
  | 0x2 => some (.call nnn)
  | 0x3 => some (.skipEqByte x nn)
  | 0x4 => some (.skipNeByte x nn)
  | 0x5 => if nOf word = 0 then some (.skipEq x y) else none
  | 0x6 => some (.loadByte x nn)
  | 0x7 => some (.addByte x nn)
  | 0x8 => ofArithmeticWord? word
  | 0x9 => if nOf word = 0 then some (.skipNe x y) else none
  | 0xA => some (.loadIndex nnn)
  | 0xB => some (.jumpOffset nnn)
  | 0xC => some (.random x nn)
  | 0xD => some (.draw x y (UInt8.ofNat (nOf word)))
  | 0xE => ofKeyWord? word
  | 0xF => ofTransferWord? word
  | _ => none

/-- Read a word; one that stands for no instruction is an unknown opcode. -/
def decode (word : UInt16) : Except Fault Instruction :=
  match ofWord? word with
  | some i => .ok i
  | none => .error (.unknownOpcode word)

/-- The word of a row with two selectors and a low nibble. -/
def wordXYN (row : Nat) (x y : UInt8) (n : Nat) : UInt16 :=
  UInt16.ofNat (row * 0x1000 + x.toNat * 0x100 + y.toNat * 0x10 + n)

/-- The word of a row with one selector and a low byte. -/
def wordXNN (row : Nat) (x : UInt8) (nn : Nat) : UInt16 :=
  UInt16.ofNat (row * 0x1000 + x.toNat * 0x100 + nn)

/-- The word of a row with an address. -/
def wordNNN (row : Nat) (addr : UInt16) : UInt16 := UInt16.ofNat (row * 0x1000 + addr.toNat)

/-- The word of an instruction whose operands fit their fields. -/
def encode : Instruction → UInt16
  | sys addr => wordNNN 0x0 addr
  | clear => 0x00E0
  | ret => 0x00EE
  | jump addr => wordNNN 0x1 addr
  | call addr => wordNNN 0x2 addr
  | skipEqByte x nn => wordXNN 0x3 x nn.toNat
  | skipNeByte x nn => wordXNN 0x4 x nn.toNat
  | skipEq x y => wordXYN 0x5 x y 0x0
  | loadByte x nn => wordXNN 0x6 x nn.toNat
  | addByte x nn => wordXNN 0x7 x nn.toNat
  | move x y => wordXYN 0x8 x y 0x0
  | or x y => wordXYN 0x8 x y 0x1
  | and x y => wordXYN 0x8 x y 0x2
  | xor x y => wordXYN 0x8 x y 0x3
  | add x y => wordXYN 0x8 x y 0x4
  | sub x y => wordXYN 0x8 x y 0x5
  | shiftRight x y => wordXYN 0x8 x y 0x6
  | subFrom x y => wordXYN 0x8 x y 0x7
  | shiftLeft x y => wordXYN 0x8 x y 0xE
  | skipNe x y => wordXYN 0x9 x y 0x0
  | loadIndex addr => wordNNN 0xA addr
  | jumpOffset addr => wordNNN 0xB addr
  | random x nn => wordXNN 0xC x nn.toNat
  | draw x y n => wordXYN 0xD x y n.toNat
  | skipKeyDown x => wordXNN 0xE x 0x9E
  | skipKeyUp x => wordXNN 0xE x 0xA1
  | readDelay x => wordXNN 0xF x 0x07
  | waitKey x => wordXNN 0xF x 0x0A
  | setDelay x => wordXNN 0xF x 0x15
  | setSound x => wordXNN 0xF x 0x18
  | addIndex x => wordXNN 0xF x 0x1E
  | loadGlyph x => wordXNN 0xF x 0x29
  | storeDecimal x => wordXNN 0xF x 0x33
  | storeRegisters x => wordXNN 0xF x 0x55
  | loadRegisters x => wordXNN 0xF x 0x65

/-- The operands fit the fields of the instruction's row. A machine code call must not take one
of the two words that class 0 has for other instructions. -/
def Encodable : Instruction → Prop
  | sys addr => addr < 0x1000 ∧ addr ≠ 0x0E0 ∧ addr ≠ 0x0EE
  | clear | ret => True
  | jump addr | call addr | loadIndex addr | jumpOffset addr => addr < 0x1000
  | skipEqByte x _ | skipNeByte x _ | loadByte x _ | addByte x _ | random x _ => x < 16
  | skipEq x y | move x y | or x y | and x y | xor x y | add x y | sub x y | shiftRight x y
  | subFrom x y | shiftLeft x y | skipNe x y => x < 16 ∧ y < 16
  | draw x y n => x < 16 ∧ y < 16 ∧ n < 16
  | skipKeyDown x | skipKeyUp x | readDelay x | waitKey x | setDelay x | setSound x | addIndex x
  | loadGlyph x | storeDecimal x | storeRegisters x | loadRegisters x => x < 16

end Chip8.Instruction
