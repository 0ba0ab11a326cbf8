import Chip8.Proofs.Commands

/-!
# Safety

However a machine is used after power on, its counter, its return addresses and the register it
waits for stay within bounds. A cycle never meets a selector, an address sum or a number of
values that it cannot handle, wherever the registers and timers stand.
-/

namespace Chip8.Machine

variable {ρ : Type}

/-- What holds of every machine that has been used through its commands only. -/
structure Safe (m : Machine ρ) : Prop where
  /-- The farthest a jump with an offset can reach. -/
  pc_le : m.registers.pc ≤ 0x10FE
  depth_le : m.stack.depth ≤ 16
  /-- Return addresses follow a word that was fetched. -/
  returns_le : ∀ addr ∈ m.stack.toList, addr ≤ 0x1000
  waits : m.WaitsInRange
  size : m.memory.cells.toList.length = 4096

/-! ### One instruction -/

/-- An instruction leads from memory to where the next fetch is refused at the latest. -/
theorem pcAfter_le {m : Machine ρ} {i : Instruction} (hi : i.Encodable)
    (hpc : m.registers.pc ≤ 0x1000) (hr : ∀ addr ∈ m.stack.toList, addr ≤ 0x1000) :
    m.pcAfter i ≤ 0x10FE := by
  have hle {addr : UInt16} (h : addr ≤ 0x1000) : addr ≤ 0x10FE :=
    UInt16.le_trans h (by decide)
  have hnext {skip : Bool} :
      (if skip then m.registers.pc + 2 else m.registers.pc) ≤ 0x10FE := by
    by_cases hs : skip
    · have hp : m.registers.pc.toNat ≤ 0x1000 := UInt16.le_iff_toNat_le.mp hpc
      rw [if_pos hs, UInt16.le_iff_toNat_le, UInt16.toNat_add]
      change (m.registers.pc.toNat + 2) % 2 ^ 16 ≤ 0x10FE
      omega
    · rw [if_neg hs]
      exact hle hpc
  cases i with
  | jump addr | call addr => exact hle (UInt16.le_of_lt hi)
  | jumpOffset addr =>
    have ha : addr.toNat < 0x1000 := UInt16.lt_iff_toNat_lt.mp hi
    have hv := (m.v 0).toNat_lt
    change addr + (m.v 0).toUInt16 ≤ 0x10FE
    rw [UInt16.le_iff_toNat_le, UInt16.toNat_add, UInt8.toNat_toUInt16]
    change (addr.toNat + (m.v 0).toNat) % 2 ^ 16 ≤ 0x10FE
    omega
  | ret =>
    rw [pcAfter_ret]
    split
    · next hp =>
      apply hle
      apply hr
      rw [CallStack.toList_pop hp]
      exact List.mem_append_right _ (List.mem_singleton_self _)
    · exact hle hpc
  | _ => exact hnext

/-- The only new return address is that of a call. -/
theorem mem_stackAfter {m : Machine ρ} {i : Instruction} {addr : UInt16}
    (h : addr ∈ (m.stackAfter i).toList) : addr ∈ m.stack.toList ∨ addr = m.registers.pc := by
  cases i with
  | call target =>
    rw [stackAfter_call] at h
    split at h
    · next hp =>
      rw [CallStack.toList_push hp, List.mem_append, List.mem_singleton] at h
      exact h
    · exact .inl h
  | ret =>
    rw [stackAfter_ret] at h
    split at h
    · next hp =>
      rw [CallStack.toList_pop hp]
      exact .inl (List.mem_append_left _ h)
    · exact .inl h
  | _ => exact .inl h

/-! ### One command -/

/-- Safety is a matter of the counter, the stack and the wait. -/
theorem Safe.congr {m m' : Machine ρ} (h : m.Safe) (hpc : m'.registers.pc = m.registers.pc)
    (hs : m'.stack = m.stack) (hw : ∀ x, m'.phase = .waiting x → m.phase = .waiting x) :
    m'.Safe where
  pc_le := by
    rw [hpc]
    exact h.pc_le
  depth_le := m'.stack.depth_le
  returns_le := by
    rw [hs]
    exact h.returns_le
  waits := fun x hx ↦ h.waits x (hw x hx)
  size := Vector.length_toList

/-- A machine is safe at power on. -/
theorem safe_powerOn (random : ρ) (dialect : Dialect) : (powerOn random dialect).Safe where
  pc_le := show programAddr ≤ 0x10FE by decide
  depth_le := CallStack.empty.depth_le
  returns_le := by
    intro addr h
    rw [powerOn, CallStack.toList_empty] at h
    cases h
  waits := by
    intro x h
    cases h
  size := Vector.length_toList

/-- A loaded machine is as safe as one at power on. -/
theorem safe_reset (m : Machine ρ) (memory : Memory memorySize) : (m.reset memory).Safe := by
  apply (safe_powerOn m.random m.dialect).congr
  · rfl
  · rfl
  · intro x hx
    cases hx

/-- Past a word the counter is at most at the end of memory. -/
theorem pc_past_le {m : Machine ρ} {word : UInt16}
    (h : m.memory.readWord m.registers.pc = .ok word) : m.past.registers.pc ≤ 0x1000 := by
  have hle : m.registers.pc.toNat + 2 ≤ 4096 := Memory.le_of_readWord h
  rw [UInt16.le_iff_toNat_le, toNat_pc_past h]
  exact hle

/-- Halting past a word is safe. -/
theorem Safe.halt_past {m : Machine ρ} (h : m.Safe) {word : UInt16}
    (hf : m.memory.readWord m.registers.pc = .ok word) (f : Fault) : (m.past.halt f).Safe where
  pc_le := UInt16.le_trans (pc_past_le hf) (by decide)
  depth_le := h.depth_le
  returns_le := h.returns_le
  waits := by
    intro x hx
    cases hx
  size := h.size

variable [RandomSource ρ]

/-- The effect of an instruction on a machine past its word is safe. -/
theorem Safe.effect_past {m : Machine ρ} (h : m.Safe) {word : UInt16} {i : Instruction}
    (hf : m.memory.readWord m.registers.pc = .ok word) (hi : i.Encodable) :
    (m.past.effect i).Safe where
  pc_le := pcAfter_le hi (pc_past_le hf) h.returns_le
  depth_le := (m.past.stackAfter i).depth_le
  returns_le := by
    intro addr ha
    rcases mem_stackAfter ha with ha | rfl
    · exact h.returns_le addr ha
    · exact pc_past_le hf
  waits := h.waits.effect_past hi
  size := Vector.length_toList

/-- A cycle keeps a machine safe. -/
theorem Safe.cycles {m : Machine ρ} (h : m.Safe) {o : Outcome Fault Unit (Machine ρ)}
    (ho : m.Cycles o) : o.state.Safe := by
  cases ho with
  | again _ => exact h
  | idle _ _ => exact h
  | key _ _ | unfetched _ _ =>
    apply h.congr
    · rfl
    · rfl
    · intro x hx
      cases hx
  | unread _ hf _ => exact h.halt_past hf _
  | refused _ hf _ _ => exact h.halt_past hf _
  | carriedOut _ hf hi _ => exact h.effect_past hf (Instruction.encodable_of_decode hi)

/-- Every command keeps a machine safe. -/
theorem Safe.obeys {m : Machine ρ} (h : m.Safe) {c : Command}
    {o : Outcome LoadError Unit (Machine ρ)} (ho : m.Obeys c o) : o.state.Safe := by
  induction ho with
  | tooLarge _ | unread _ | stuck _ _ | unhalted _ | noKey _ => exact h
  | loaded _ => exact safe_reset m _
  | read _ _ ih => exact ih
  | cycled hc => exact h.cycles hc
  | resumed _ =>
    apply h.congr
    · rfl
    · rfl
    · intro x hx
      cases hx
  | ticked | keySet _ | keysSet => exact h.congr rfl rfl fun _ hx ↦ hx

/-- Every command has an outcome, which is safe. -/
theorem Safe.obey {m : Machine ρ} (h : m.Safe) (c : Command) :
    ∃ o, m.obey c = .ok o ∧ o.state.Safe := by
  obtain ⟨o, ho⟩ := exists_obeys m c
  exact ⟨o, obey_of_obeys h.waits ho, h.obeys ho⟩

/-! ### All commands -/

/-- Any commands after power on have outcomes and leave a safe machine, and its next cycle has an
outcome, even if its registers and timers are overwritten before. -/
theorem exists_history_safe (random : ρ) (dialect : Dialect) (commands : List Command) :
    ∃ past, (powerOn random dialect).history commands = .ok past ∧ past.state.Safe ∧
      ∀ (registers : Registers) (timers : Timers),
        ∃ o, { past.state with registers, timers }.cycle = .ok o := by
  obtain ⟨past, hp, hs⟩ :=
    exists_history (fun m h c ↦ Safe.obey h c) (safe_powerOn random dialect) commands
  refine ⟨past, hp, hs, ?_⟩
  intro registers timers
  exact exists_cycle hs.waits

end Chip8.Machine
