import Chip8.Fault
import Chip8.Instruction.Mnemonic
import Chip8.Quoted

/-!
# Events

What the machine and its host note down while they work. Every operation returns its events in
the order in which they happened. The line of an event in a log shows its level and its text.
-/

namespace Chip8

/-- How much attention an event deserves. -/
inductive Level where
  | trace
  | debug
  | info
  | warn
  deriving DecidableEq

/-- Something worth noting down. -/
inductive Event where
  /-- The word at `pc` was fetched and is about to be carried out. -/
  | executing (pc word : UInt16) (instruction : Instruction)
  /-- A call into machine code was passed over. -/
  | ignoredSys (addr : UInt16)
  /-- A program of `size` bytes was loaded. -/
  | loaded (size : Nat)
  /-- A key ended the wait for register `x`. -/
  | keyTaken (key : Nat) (x : UInt8)
  /-- A machine that had halted at an unknown opcode runs again. -/
  | resumed (word : UInt16)
  /-- The machine halted with its counter at `pc`. -/
  | halted (pc : UInt16) (fault : Fault)
  /-- A host passes over an unknown opcode. -/
  | skipped (word : UInt16)
  /-- The user ended a run after so many frames. -/
  | quit (frames : Nat)
  /-- A typed character that stands for no key. -/
  | unmapped (character : Char)
  /-- A key of the terminal that gives no character. -/
  | notCharacter
  deriving DecidableEq

namespace Event

/-- The level of the line of an event. -/
def level : Event → Level
  | executing .. | ignoredSys _ => .trace
  | loaded _ | keyTaken .. | resumed _ => .debug
  | quit _ => .info
  | halted .. | skipped _ | unmapped _ | notCharacter => .warn

/-- The text of the line of an event. -/
def text : Event → String
  | executing pc word instruction =>
    Numeral.hexMarked 3 pc.toNat ++ ": " ++ Numeral.hex 4 word.toNat ++ "  " ++
      instruction.mnemonic
  | ignoredSys addr => "ignoring SYS " ++ Numeral.hexMarked 3 addr.toNat
  | loaded size => "loaded " ++ Numeral.decimal size ++ " byte program"
  | keyTaken key x =>
    "key " ++ Numeral.hexUpper key ++ " released FX0A into V" ++ Numeral.hexUpper x.toNat
  | resumed word => "resuming past unknown opcode " ++ Numeral.hexMarked 4 word.toNat
  | halted pc fault => "halted at " ++ Numeral.hexMarked 3 pc.toNat ++ ": " ++ fault.message
  | skipped word => "skipping unknown opcode " ++ Numeral.hexMarked 4 word.toNat
  | quit frames => "quit after " ++ Numeral.decimal frames ++ " frames"
  | unmapped character => "can't map " ++ Quoted.char character ++ " to a COSMAC key"
  | notCharacter => "unknown key event received"

end Event

/-- A sequence of events, first to last. -/
abbrev Log := Array Event

end Chip8
