import Chip8.Instruction.Encoding
import Chip8.Machine.Execute

/-!
# Cycles

One cycle carries out one instruction, or looks for a key if the machine waits for one, or
reports the fault at which the machine has halted. A fault in a cycle halts the machine.
-/

namespace Chip8.Machine

variable {ρ : Type} [RandomSource ρ]

/-- An instruction on its way: the address and word it was fetched from, and the machine with
its counter already past them. -/
structure Fetched (ρ : Type) where
  pc : UInt16
  word : UInt16
  machine : Machine ρ

/-- Fetch the word at the counter and move the counter past it. -/
def fetch (m : Machine ρ) : Except Trap (Fetched ρ) := do
  let pc := m.registers.pc
  let word ← Trap.ofFault (m.memory.readWord pc)
  let past ← offsetAddr pc 2
  return ⟨pc, word, m.goto past⟩

/-- Halt at a fault and note where. -/
def stop (m : Machine ρ) (fault : Fault) (log : Log) : Outcome Fault Unit (Machine ρ) :=
  ⟨.error fault, m.halt fault, log.push (.halted m.registers.pc fault)⟩

/-- Carry out a fetched word. A machine that faults halts in the state that the work on it has
left behind. -/
def perform (f : Fetched ρ) : Except Misuse (Outcome Fault Unit (Machine ρ)) :=
  match Instruction.decode f.word with
  | .error fault => .ok (f.machine.stop fault #[])
  | .ok instruction =>
    let log := #[.executing f.pc f.word instruction]
    match instruction.carryOut.run f.machine with
    | .error (.misuse u) _ => .error u
    | .error (.fault fault) m => .ok (m.stop fault log)
    | .ok () m => .ok ⟨.ok (), m, log ++ f.machine.executionLog instruction⟩

/-- Carry out one instruction of a running machine. -/
def step (m : Machine ρ) : Except Misuse (Outcome Fault Unit (Machine ρ)) :=
  match m.fetch with
  | .error (.misuse u) => .error u
  | .error (.fault fault) => .ok (m.stop fault #[])
  | .ok f => perform f

/-- Give register `x` the number of the lowest key that is down, if one is, and run on. -/
def takeKey (m : Machine ρ) (x : UInt8) : Except Misuse (Outcome Fault Unit (Machine ρ)) :=
  match m.keypad.firstDown with
  | none => .ok ⟨.ok (), m, #[]⟩
  | some key =>
    match m.registers.set x (UInt8.ofNat key.val) with
    | .error u => .error u
    | .ok registers => .ok ⟨.ok (), { m with registers, phase := .running }, #[.keyTaken key x]⟩

/-- One cycle. -/
def cycle (m : Machine ρ) : Except Misuse (Outcome Fault Unit (Machine ρ)) :=
  match m.phase with
  | .halted fault => .ok ⟨.error fault, m, #[]⟩
  | .waiting x => m.takeKey x
  | .running => m.step

end Chip8.Machine
