import Chip8.Host
import Chip8.Proofs.Transition

/-!
# Cycles under a host

A host makes of an outcome what the machine gave, but passes over an unknown opcode.
-/

namespace Chip8.Machine

variable {ρ : Type}

/-- What a host makes of the outcome of a cycle. -/
def overlook (o : Outcome Fault Unit (Machine ρ)) : Outcome Fault Unit (Machine ρ) :=
  match o.result with
  | .error (.unknownOpcode word) =>
    ⟨o.state.resume.result, o.state.resume.state, o.log.push (.skipped word) ++ o.state.resume.log⟩
  | _ => o

variable [RandomSource ρ]

/-- A cycle under a host is the case of `Cycles`, as the host sees it. -/
theorem cycleSkipping_of_cycles {m : Machine ρ} {o : Outcome Fault Unit (Machine ρ)}
    (hw : m.WaitsInRange) (h : m.Cycles o) : m.cycleSkipping = .ok (overlook o) := by
  rw [cycleSkipping, cycle_of_cycles hw h]
  rcases o with ⟨result, state, log⟩
  cases result with
  | ok _ => rfl
  | error f => cases f <;> rfl

end Chip8.Machine
