import Chip8.Numeral

/-!
# Faults

A fault is a condition that the machine reports and stops at. A misuse is a precondition that
a caller broke: no loaded program can cause one. A trap is either of the two.
-/

namespace Chip8

/-- Something the machine cannot carry on from. -/
inductive Fault where
  /-- No byte exists at `addr`, the first missing one that the access needed. -/
  | outOfBounds (addr : Nat)
  /-- A call while all return slots were taken. -/
  | stackOverflow
  /-- A return while no call was pending. -/
  | stackUnderflow
  /-- A word that stands for no instruction the machine carries out. -/
  | unknownOpcode (word : UInt16)
  /-- A program of `size` bytes where `capacity` fit. -/
  | programTooLarge (size capacity : Nat)
  /-- A key number beyond the pad. -/
  | invalidKey (key : Nat)
  deriving DecidableEq

/-- The sentence that names a fault. -/
def Fault.message : Fault → String
  | .outOfBounds addr => "memory access out of bounds at " ++ Numeral.hexMarked 4 addr
  | .stackOverflow => "call stack overflow"
  | .stackUnderflow => "return with an empty call stack"
  | .unknownOpcode word => "unknown opcode " ++ Numeral.hexMarked 4 word.toNat
  | .programTooLarge size capacity =>
    "program is " ++ Numeral.decimal size ++ " bytes, at most " ++ Numeral.decimal capacity ++
      " bytes fit"
  | .invalidKey key => "no such key " ++ Numeral.hexMarked 1 key

/-- A broken precondition of a caller. -/
inductive Misuse where
  /-- A selector that names none of the sixteen registers. -/
  | noSuchRegister (selector : UInt8)
  /-- As many values as `given` where each of `wanted` registers needs one. -/
  | countMismatch (given wanted : Nat)
  /-- An address sum that does not fit in 16 bits. -/
  | addressOverflow (base offset : UInt16)
  /-- An access whose end does not fit in 64 bits. -/
  | extentOverflow (addr : UInt16) (length : Nat)
  deriving DecidableEq

/-- Why an operation had no result. -/
inductive Trap where
  | fault (fault : Fault)
  | misuse (misuse : Misuse)
  deriving DecidableEq

/-- Faults are traps. -/
def Trap.ofFault {α : Type} : Except Fault α → Except Trap α
  | .ok a => .ok a
  | .error f => .error (.fault f)

/-- Misuses are traps. -/
def Trap.ofMisuse {α : Type} : Except Misuse α → Except Trap α
  | .ok a => .ok a
  | .error u => .error (.misuse u)

/-- Why a program could not be read in: it does not suit the machine, or its reader failed. -/
inductive LoadError where
  | fault (fault : Fault)
  | io (text : String)
  deriving DecidableEq

/-- A fault keeps its own sentence; a failed reader is announced as such. -/
def LoadError.message : LoadError → String
  | .fault f => f.message
  | .io text => "i/o error: " ++ text

end Chip8
