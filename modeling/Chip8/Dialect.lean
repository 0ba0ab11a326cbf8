/-!
# Dialects

Machines of this family disagree on a few instructions. A dialect picks a side for each.
-/

namespace Chip8

/-- The register that `8XY6` and `8XYE` shift. -/
inductive ShiftSource where
  /-- VX itself; VY is not read. -/
  | vx
  /-- VY; the result still goes to VX. -/
  | vy
  deriving DecidableEq

/-- What becomes of `0NNN`, a call into machine code. -/
inductive SysCalls where
  /-- There is no such code to call, so the word is an unknown opcode. -/
  | fault
  /-- The word does nothing. -/
  | ignore
  deriving DecidableEq

/-- A choice for each instruction on which machines disagree. -/
structure Dialect where
  shiftSource : ShiftSource
  sysCalls : SysCalls
  deriving DecidableEq

/-- The dialect that most programs expect. -/
def Dialect.standard : Dialect := ⟨.vx, .fault⟩

end Chip8
