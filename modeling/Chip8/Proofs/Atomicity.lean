import Chip8.Proofs.Transition

/-!
# Atomic cycles

A cycle that faults has done nothing but halt: whatever the instruction had set out to change is
as before, and the counter has moved past the word unless there was none.
-/

namespace Chip8.Machine

variable {ρ : Type}

/-- Two machines that differ in their counters and phases at most. -/
structure Untouched (m m' : Machine ρ) : Prop where
  memory : m'.memory = m.memory
  v : m'.registers.v = m.registers.v
  index : m'.registers.index = m.registers.index
  /-- The pointer, the pending addresses and the stale slots above them. -/
  stack : m'.stack = m.stack
  timers : m'.timers = m.timers
  keypad : m'.keypad = m.keypad
  screen : m'.screen = m.screen
  random : m'.random = m.random
  dialect : m'.dialect = m.dialect

/-- Halting touches nothing. -/
theorem untouched_halt (m : Machine ρ) (f : Fault) : m.Untouched (m.halt f) := by
  constructor <;> rfl

/-- Halting past a word touches nothing. -/
theorem untouched_halt_past (m : Machine ρ) (f : Fault) : m.Untouched (m.past.halt f) := by
  constructor <;> rfl

variable [RandomSource ρ]

/-- The cycle of a running machine that faults leaves everything untouched and halts at that fault.
If there was no word to fetch, this is the fault and the counter stays; after any other fault the
counter is past the word. -/
theorem cycle_fault_untouched {m : Machine ρ} (hp : m.phase = .running) :
    ∃ o, m.cycle = .ok o ∧ ∀ fault, o.result = .error fault →
      m.Untouched o.state ∧ o.state.phase = .halted fault ∧
      if 4096 < m.registers.pc.toNat + 2 then
        fault = .outOfBounds (max m.registers.pc.toNat 4096) ∧
          o.state.registers.pc = m.registers.pc
      else o.state.registers.pc.toNat = m.registers.pc.toNat + 2 := by
  have hw : m.WaitsInRange := by
    intro x hx
    rw [hp] at hx
    cases hx
  obtain ⟨o, ho⟩ := exists_cycles m
  refine ⟨o, cycle_of_cycles hw ho, ?_⟩
  intro fault hf
  cases ho with
  | again h | idle h _ | key h _ =>
    rw [hp] at h
    cases h
  | unfetched _ hr =>
    cases hf
    obtain ⟨hlt, rfl⟩ := Memory.readWord_eq_error_iff.mp hr
    refine ⟨untouched_halt m _, rfl, ?_⟩
    rw [if_pos hlt]
    exact ⟨rfl, rfl⟩
  | unread _ hr _ | refused _ hr _ _ =>
    cases hf
    have hle : ¬ 4096 < m.registers.pc.toNat + 2 := Nat.not_lt.mpr (Memory.le_of_readWord hr)
    refine ⟨untouched_halt_past m _, rfl, ?_⟩
    rw [if_neg hle]
    exact toNat_pc_past hr
  | carriedOut _ _ _ _ => cases hf

/-- A machine whose counter is at `F355`, which stores four registers, with three bytes of memory
left from I on. -/
def atTopOfMemory : Machine Cyclic :=
  { powerOn (Cyclic.ofList [0xA5]) .standard with
    memory := Memory.powerOn.put 0x200 [0xF3, 0x55]
    registers := ⟨Vector.replicate 16 0xFF, 0x0FFD, 0x200⟩ }

/-- The store that does not fit faults at the top of memory and touches nothing but the phase and
the counter, which is past it. -/
theorem cycle_fault_untouched_store :
    atTopOfMemory.phase = .running ∧
      ∃ o, atTopOfMemory.cycle = .ok o ∧ o.result = .error (.outOfBounds 4096) ∧
        atTopOfMemory.Untouched o.state ∧ o.state.phase = .halted (.outOfBounds 4096) ∧
        o.state.registers.pc.toNat = 0x202 := by
  obtain ⟨o, ho, hfault⟩ := cycle_fault_untouched (m := atTopOfMemory) rfl
  have hphase : atTopOfMemory.cycle.toOption.map (·.state.phase) =
      some (.halted (.outOfBounds 4096)) := by
    decide +kernel
  rw [ho] at hphase
  have hhalted : o.state.phase = .halted (.outOfBounds 4096) := Option.some.inj hphase
  cases hr : o.result with
  | ok _ => exact absurd hhalted ((cycles_of_cycle ho).awake hr _)
  | error fault =>
    obtain ⟨huntouched, hf, hpc⟩ := hfault fault hr
    cases hf.symm.trans hhalted
    exact ⟨rfl, o, ho, hr, huntouched, hhalted, hpc⟩

end Chip8.Machine
