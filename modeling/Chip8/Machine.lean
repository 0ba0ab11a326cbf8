import Chip8.CallStack
import Chip8.Dialect
import Chip8.Event
import Chip8.Font
import Chip8.Framebuffer
import Chip8.Keypad
import Chip8.Random
import Chip8.Registers
import Chip8.Timers

/-!
# The machine

All state of a machine, and what a host may do to it besides running instructions: load a
program, set keys, tick the timers and step past an unknown opcode.

A machine is running, or waits for a key, or has halted at a fault. An operation returns its
result together with the state it leaves and the events it noted.
-/

namespace Chip8

/-- What the next cycle will do. -/
inductive Phase where
  /-- Carry out an instruction. -/
  | running
  /-- Put the number of a key that is down into register `x`. -/
  | waiting (x : UInt8)
  /-- Report the fault again. -/
  | halted (fault : Fault)
  deriving DecidableEq

/-- A machine that takes its random bytes from a source of type `ρ`. -/
structure Machine (ρ : Type) where
  memory : Memory memorySize
  registers : Registers
  stack : CallStack
  timers : Timers
  keypad : Keypad
  screen : Framebuffer
  random : ρ
  dialect : Dialect
  phase : Phase

/-- What an operation leaves behind: its result, the state after it and the events in it. -/
structure Outcome (ε α σ : Type) where
  result : Except ε α
  state : σ
  log : Log

namespace Machine

variable {ρ : Type}

/-- A machine at power on. -/
def powerOn (random : ρ) (dialect : Dialect) : Machine ρ where
  memory := .powerOn
  registers := .powerOn
  stack := .empty
  timers := .zero
  keypad := .released
  screen := .blank
  random := random
  dialect := dialect
  phase := .running

/-- Load a program. This resets the machine, except that keys, the source of random bytes and
the dialect stay. A program that does not fit changes nothing. -/
def load (m : Machine ρ) (program : List UInt8) : Outcome Fault Unit (Machine ρ) :=
  match m.memory.load program with
  | .error f => ⟨.error f, m, #[]⟩
  | .ok memory =>
    ⟨.ok (),
      { m with
        memory
        registers := .powerOn
        stack := m.stack.clear
        timers := .zero
        screen := .blank
        phase := .running },
      #[.loaded program.length]⟩

/-- Count the timers down. -/
def tick (m : Machine ρ) : Machine ρ := { m with timers := m.timers.tick }

/-- Press or release one key. -/
def setKey (m : Machine ρ) (key : Nat) (down : Bool) : Except Fault (Machine ρ) :=
  match m.keypad.set key down with
  | .error f => .error f
  | .ok keypad => .ok { m with keypad }

/-- Set all keys. -/
def setKeys (m : Machine ρ) (keypad : Keypad) : Machine ρ := { m with keypad }

/-- Halt at a fault. -/
def halt (m : Machine ρ) (fault : Fault) : Machine ρ := { m with phase := .halted fault }

/-- Let a machine run again that has halted at an unknown opcode; its counter has moved past it.
Any other fault is reported again. A machine that has not halted is left alone. -/
def resume (m : Machine ρ) : Outcome Fault Unit (Machine ρ) :=
  match m.phase with
  | .halted (.unknownOpcode word) => ⟨.ok (), { m with phase := .running }, #[.resumed word]⟩
  | .halted fault => ⟨.error fault, m, #[]⟩
  | .running | .waiting _ => ⟨.ok (), m, #[]⟩

end Machine
end Chip8
