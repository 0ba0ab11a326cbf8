import Chip8.Device
import Chip8.Machine.Cycle

/-!
# The host

A host runs a machine in frames, sixty to the second. A frame looks at the keys, spends a fixed
number of cycles, ticks the timers once, shows the picture and lets the buzzer follow the sound
timer. Unknown opcodes are passed over; any other fault ends the frame.
-/

namespace Chip8

/-- Why a frame or a run failed. -/
inductive HostError where
  /-- The machine halted. -/
  | fault (fault : Fault)
  /-- The input or the display failed. -/
  | io (text : String)
  /-- The buzzer failed. -/
  | buzzer (text : String)
  deriving DecidableEq

/-- The text of a host's error. -/
def HostError.message : HostError → String
  | .fault f => f.message
  | .io text | .buzzer text => text

/-- How a frame without an error ended. -/
inductive FrameEnd where
  | played
  | quit
  deriving DecidableEq

/-- Cycles in a frame when a second has `hz` of them; at least one. -/
def cyclesPerFrame (hz : UInt32) : Nat := max 1 (hz / timerHz).toNat

namespace Machine

variable {ρ : Type} [RandomSource ρ]

/-- One cycle, after which a machine that halted at an unknown opcode runs on. -/
def cycleSkipping (m : Machine ρ) : Except Misuse (Outcome Fault Unit (Machine ρ)) :=
  match m.cycle with
  | .error u => .error u
  | .ok o =>
    match o.result with
    | .error (.unknownOpcode word) =>
      let resumed := o.state.resume
      .ok ⟨resumed.result, resumed.state, o.log.push (.skipped word) ++ resumed.log⟩
    | _ => .ok o

/-- Spend up to `n` cycles, stopping at a fault; the events follow those in `log`. -/
def spend : Nat → Machine ρ → Log → Except Misuse (Outcome Fault Unit (Machine ρ))
  | 0, m, log => .ok ⟨.ok (), m, log⟩
  | n + 1, m, log =>
    match m.cycleSkipping with
    | .error u => .error u
    | .ok o =>
      match o.result with
      | .error fault => .ok ⟨.error fault, o.state, log ++ o.log⟩
      | .ok () => spend n o.state (log ++ o.log)

end Machine

/-- A machine and the devices around it. -/
structure Host (ρ ι δ β : Type) where
  machine : Machine ρ
  input : ι
  display : δ
  buzzer : β
  cyclesPerFrame : Nat

namespace Host

variable {ρ ι δ β : Type}

/-- Show the picture and let the buzzer follow the sound timer. -/
def present [Display δ] [Buzzer β] (h : Host ρ ι δ β) (log : Log) :
    Outcome HostError FrameEnd (Host ρ ι δ β) :=
  match Display.draw h.display h.machine.screen with
  | (.error text, display) => ⟨.error (.io text), { h with display }, log⟩
  | (.ok (), display) =>
    match Buzzer.sync h.buzzer h.machine.timers.soundActive with
    | (.error text, buzzer) => ⟨.error (.buzzer text), { h with display, buzzer }, log⟩
    | (.ok (), buzzer) => ⟨.ok .played, { h with display, buzzer }, log⟩

variable [RandomSource ρ] [Input ι] [Display δ] [Buzzer β]

/-- The part of a frame after its keys are known. -/
def play (h : Host ρ ι δ β) (keypad : Keypad) (log : Log) :
    Except Misuse (Outcome HostError FrameEnd (Host ρ ι δ β)) :=
  match Machine.spend h.cyclesPerFrame (h.machine.setKeys keypad) log with
  | .error u => .error u
  | .ok o =>
    match o.result with
    | .error fault => .ok ⟨.error (.fault fault), { h with machine := o.state }, o.log⟩
    | .ok () => .ok ({ h with machine := o.state.tick }.present o.log)

/-- One frame. -/
def frame (h : Host ρ ι δ β) : Except Misuse (Outcome HostError FrameEnd (Host ρ ι δ β)) :=
  let scan := Input.scan h.input
  let h := { h with input := scan.input }
  match scan.answer with
  | .error text => .ok ⟨.error (.io text), h, scan.log⟩
  | .ok none => .ok ⟨.ok .quit, h, scan.log⟩
  | .ok (some keypad) => h.play keypad scan.log

end Host
end Chip8
