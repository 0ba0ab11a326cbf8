import Chip8.Instruction
import Chip8.Numeral

/-!
# Mnemonics

The written form of an instruction: an operation name and its operands, separated by commas.
-/

namespace Chip8.Instruction

/-- The name of a register: `V` and its number in upper case hexadecimal. -/
def registerName (x : UInt8) : String := "V" ++ Numeral.hexUpper x.toNat

/-- A byte operand, with two digits. -/
def byteText (nn : UInt8) : String := Numeral.hexMarked 2 nn.toNat

/-- An address operand, with at least three digits. -/
def addrText (addr : UInt16) : String := Numeral.hexMarked 3 addr.toNat

/-- An operation on a register and a byte. -/
def withByte (op : String) (x nn : UInt8) : String :=
  op ++ " " ++ registerName x ++ ", " ++ byteText nn

/-- An operation on two registers. -/
def withRegisters (op : String) (x y : UInt8) : String :=
  op ++ " " ++ registerName x ++ ", " ++ registerName y

/-- The mnemonic of an instruction. -/
def mnemonic : Instruction → String
  | sys addr => "SYS " ++ addrText addr
  | clear => "CLS"
  | ret => "RET"
  | jump addr => "JP " ++ addrText addr
  | call addr => "CALL " ++ addrText addr
  | skipEqByte x nn => withByte "SE" x nn
  | skipNeByte x nn => withByte "SNE" x nn
  | skipEq x y => withRegisters "SE" x y
  | loadByte x nn => withByte "LD" x nn
  | addByte x nn => withByte "ADD" x nn
  | move x y => withRegisters "LD" x y
  | or x y => withRegisters "OR" x y
  | and x y => withRegisters "AND" x y
  | xor x y => withRegisters "XOR" x y
  | add x y => withRegisters "ADD" x y
  | sub x y => withRegisters "SUB" x y
  | shiftRight x y => withRegisters "SHR" x y
  | subFrom x y => withRegisters "SUBN" x y
  | shiftLeft x y => withRegisters "SHL" x y
  | skipNe x y => withRegisters "SNE" x y
  | loadIndex addr => "LD I, " ++ addrText addr
  | jumpOffset addr => "JP V0, " ++ addrText addr
  | random x nn => withByte "RND" x nn
  | draw x y n => withRegisters "DRW" x y ++ ", " ++ Numeral.decimal n.toNat
  | skipKeyDown x => "SKP " ++ registerName x
  | skipKeyUp x => "SKNP " ++ registerName x
  | readDelay x => "LD " ++ registerName x ++ ", DT"
  | waitKey x => "LD " ++ registerName x ++ ", K"
  | setDelay x => "LD DT, " ++ registerName x
  | setSound x => "LD ST, " ++ registerName x
  | addIndex x => "ADD I, " ++ registerName x
  | loadGlyph x => "LD F, " ++ registerName x
  | storeDecimal x => "LD B, " ++ registerName x
  | storeRegisters x => "LD [I], " ++ registerName x
  | loadRegisters x => "LD " ++ registerName x ++ ", [I]"

end Chip8.Instruction
