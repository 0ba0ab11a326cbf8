import Chip8.Machine.Cycle
import Chip8.Proofs.Decoding
import Chip8.Proofs.Effect

/-!
# Transitions

All that one cycle can do, case by case. Every machine has a case, so that a cycle always gives
an outcome: no case needs a register, an address or a number that does not exist.
-/

namespace Chip8

namespace Memory

variable {n : Nat} {m : Memory n} {addr : UInt16}

/-- A word is missing exactly if one of its bytes is. -/
theorem readWord_eq_error_iff {f : Fault} :
    m.readWord addr = .error f ↔ n < addr.toNat + 2 ∧ f = missing n addr := by
  unfold readWord
  split
  · simp
    omega
  · simp [eq_comm]
    omega

/-- Both bytes of a word that was read exist. -/
theorem le_of_readWord {word : UInt16} (h : m.readWord addr = .ok word) : addr.toNat + 2 ≤ n := by
  apply Nat.le_of_not_lt
  intro hn
  rw [readWord_eq_error_iff.mpr ⟨hn, rfl⟩] at h
  cases h

end Memory

namespace Machine

variable {ρ : Type}

/-- A machine that waits for a key has a register to put its number in. -/
def WaitsInRange (m : Machine ρ) : Prop := ∀ x, m.phase = .waiting x → x < 16

/-- The instruction that the next cycle carries out, if there is one. -/
def next? (m : Machine ρ) : Option Instruction :=
  match m.phase, m.memory.readWord m.registers.pc with
  | .running, .ok word => Instruction.ofWord? word
  | _, _ => none

/-- The machine with its counter past the next instruction. -/
def past (m : Machine ρ) : Machine ρ := m.goto (m.registers.pc + 2)

/-- The machine after register `x` has been given the number of a key. -/
def released (m : Machine ρ) (x : UInt8) (key : Fin 16) : Machine ρ :=
  { m with registers := m.registers.write x (UInt8.ofNat key.val), phase := .running }

/-- A running machine waits for nothing. -/
theorem waitsInRange_of_running {m : Machine ρ} (hp : m.phase = .running) : m.WaitsInRange := by
  intro x hx
  cases hp.symm.trans hx

/-- The register that a machine waits for is the only one that has to exist. -/
theorem waitsInRange_of_waiting {m : Machine ρ} {x : UInt8} (hp : m.phase = .waiting x)
    (hx : x < 16) : m.WaitsInRange := by
  intro y hy
  cases hp.symm.trans hy
  exact hx

/-- Past a word that exists the counter has not wrapped. -/
theorem toNat_pc_past {m : Machine ρ} {word : UInt16}
    (h : m.memory.readWord m.registers.pc = .ok word) :
    m.past.registers.pc.toNat = m.registers.pc.toNat + 2 := by
  have hle : m.registers.pc.toNat + 2 ≤ 4096 := Memory.le_of_readWord h
  change (m.registers.pc + 2).toNat = m.registers.pc.toNat + 2
  rw [UInt16.toNat_add]
  change (m.registers.pc.toNat + 2) % 2 ^ 16 = m.registers.pc.toNat + 2
  exact Nat.mod_eq_of_lt (by omega)

/-- A fetched word is the next instruction, if it can be read. -/
theorem next?_of_read {m : Machine ρ} {word : UInt16} {i : Instruction} (hp : m.phase = .running)
    (hr : m.memory.readWord m.registers.pc = .ok word) (hi : Instruction.decode word = .ok i) :
    m.next? = some i := by
  simp only [next?, hp, hr]
  exact Instruction.decode_eq_ok_iff.mp hi

/-- The next instruction is one that a running machine reads from the word at its counter. -/
theorem read_of_next? {m : Machine ρ} {i : Instruction} (h : m.next? = some i) :
    m.phase = .running ∧ ∃ word, m.memory.readWord m.registers.pc = .ok word ∧
      Instruction.decode word = .ok i := by
  unfold next? at h
  split at h
  · next word hp hr => exact ⟨hp, word, hr, Instruction.decode_eq_ok_iff.mpr h⟩
  · cases h

/-- An instruction does not halt a running machine. -/
theorem phaseAfter_ne_halted {m : Machine ρ} (hp : m.phase = .running) (i : Instruction)
    (f : Fault) : m.phaseAfter i ≠ .halted f := by
  intro h
  unfold phaseAfter at h
  split at h
  · cases h
  · rw [hp] at h
    cases h

private theorem fetch_eq {m : Machine ρ} {word : UInt16}
    (h : m.memory.readWord m.registers.pc = .ok word) :
    m.fetch = .ok ⟨m.registers.pc, word, m.past⟩ := by
  have hle : m.registers.pc.toNat + 2 ≤ 4096 := Memory.le_of_readWord h
  have ho : offsetAddr m.registers.pc 2 = .ok (m.registers.pc + 2) := by
    rw [offsetAddr, if_pos]
    change m.registers.pc.toNat + 2 < 2 ^ 16
    omega
  rw [fetch, h, ho]
  rfl

variable [RandomSource ρ]

/-- What a cycle does, and what it leaves behind. -/
inductive Cycles (m : Machine ρ) : Outcome Fault Unit (Machine ρ) → Prop where
  /-- A halted machine reports its fault again. -/
  | again {f : Fault} (phase : m.phase = .halted f) : Cycles m ⟨.error f, m, #[]⟩
  /-- No key ends the wait. -/
  | idle {x : UInt8} (phase : m.phase = .waiting x) (down : m.keypad.firstDown = none) :
    Cycles m ⟨.ok (), m, #[]⟩
  /-- The lowest key that is down ends the wait. -/
  | key {x : UInt8} {key : Fin 16} (phase : m.phase = .waiting x)
    (down : m.keypad.firstDown = some key) :
    Cycles m ⟨.ok (), m.released x key, #[.keyTaken key x]⟩
  /-- There is no word at the counter. -/
  | unfetched {f : Fault} (phase : m.phase = .running)
    (fetched : m.memory.readWord m.registers.pc = .error f) : Cycles m (m.stop f #[])
  /-- The word stands for no instruction. -/
  | unread {word : UInt16} (phase : m.phase = .running)
    (fetched : m.memory.readWord m.registers.pc = .ok word)
    (read : Instruction.ofWord? word = none) :
    Cycles m (m.past.stop (.unknownOpcode word) #[])
  /-- The machine refuses the instruction. -/
  | refused {word : UInt16} {i : Instruction} {f : Fault} (phase : m.phase = .running)
    (fetched : m.memory.readWord m.registers.pc = .ok word)
    (read : Instruction.decode word = .ok i) (refusal : m.past.refusal i = some f) :
    Cycles m (m.past.stop f #[.executing m.registers.pc word i])
  /-- The instruction has its effect. -/
  | carriedOut {word : UInt16} {i : Instruction} (phase : m.phase = .running)
    (fetched : m.memory.readWord m.registers.pc = .ok word)
    (read : Instruction.decode word = .ok i) (refusal : m.past.refusal i = none) :
    Cycles m ⟨.ok (), m.past.effect i,
      #[.executing m.registers.pc word i] ++ m.past.executionLog i⟩

/-- Every machine has a case of `Cycles`. -/
theorem exists_cycles (m : Machine ρ) : ∃ o, m.Cycles o := by
  cases hp : m.phase with
  | halted f => exact ⟨_, .again hp⟩
  | waiting x =>
    cases hk : m.keypad.firstDown with
    | none => exact ⟨_, .idle hp hk⟩
    | some key => exact ⟨_, .key hp hk⟩
  | running =>
    cases hw : m.memory.readWord m.registers.pc with
    | error f => exact ⟨_, .unfetched hp hw⟩
    | ok word =>
      cases hi : Instruction.decode word with
      | error f => exact ⟨_, .unread hp hw (Instruction.decode_eq_error_iff.mp hi).1⟩
      | ok i =>
        cases hr : m.past.refusal i with
        | some f => exact ⟨_, .refused hp hw hi hr⟩
        | none => exact ⟨_, .carriedOut hp hw hi hr⟩

private theorem step_eq {m : Machine ρ} {word : UInt16}
    (h : m.memory.readWord m.registers.pc = .ok word) :
    m.step = perform ⟨m.registers.pc, word, m.past⟩ := by
  rw [step, fetch_eq h]

/-- The case of `Cycles` that a machine has is what its cycle does. -/
theorem cycle_of_cycles {m : Machine ρ} {o : Outcome Fault Unit (Machine ρ)}
    (hw : m.WaitsInRange) (h : m.Cycles o) : m.cycle = .ok o := by
  cases h with
  | again hp => rw [cycle, hp]
  | idle hp hk =>
    rw [cycle, hp]
    simp only [takeKey, hk]
  | key hp hk =>
    rw [cycle, hp]
    simp only [takeKey, hk, Registers.set_write (hw _ hp)]
    rfl
  | @unfetched f hp hf =>
    have he : m.fetch = .error (.fault f) := by
      rw [fetch, hf]
      rfl
    rw [cycle, hp]
    simp only [step, he]
  | unread hp hf hi =>
    rw [cycle, hp]
    simp only [step_eq hf, perform, Instruction.decode_eq_error_iff.mpr ⟨hi, rfl⟩]
  | refused hp hf hi hr =>
    have hc := Instruction.run_carryOut m.past (Instruction.encodable_of_decode hi)
    rw [hr] at hc
    rw [cycle, hp]
    simp only [step_eq hf, perform, hi, hc]
  | carriedOut hp hf hi hr =>
    have hc := Instruction.run_carryOut m.past (Instruction.encodable_of_decode hi)
    rw [hr] at hc
    rw [cycle, hp]
    simp only [step_eq hf, perform, hi, hc]

/-- The effect of an instruction is a wait only for a register that exists. -/
theorem WaitsInRange.effect_past {m : Machine ρ} (hw : m.WaitsInRange) {i : Instruction}
    (hi : i.Encodable) : (m.past.effect i).WaitsInRange := by
  intro x hx
  change m.past.phaseAfter i = .waiting x at hx
  unfold phaseAfter at hx
  split at hx
  · cases hx
    exact hi
  · exact hw x hx

/-- A cycle leaves no wait for a register that does not exist. -/
theorem WaitsInRange.cycles {m : Machine ρ} (hw : m.WaitsInRange)
    {o : Outcome Fault Unit (Machine ρ)} (h : m.Cycles o) : o.state.WaitsInRange := by
  cases h with
  | again _ => exact hw
  | idle _ _ => exact hw
  | carriedOut _ _ hi _ => exact hw.effect_past (Instruction.encodable_of_decode hi)
  | key _ _ | unfetched _ _ | unread _ _ _ | refused _ _ _ _ =>
    intro x hx
    cases hx

/-- No cycle changes the keys. -/
theorem Cycles.keypad {m : Machine ρ} {o : Outcome Fault Unit (Machine ρ)} (h : m.Cycles o) :
    o.state.keypad = m.keypad := by
  cases h <;> rfl

/-- A cycle that reports a fault leaves the machine halted at it. -/
theorem Cycles.halted {m : Machine ρ} {o : Outcome Fault Unit (Machine ρ)} (h : m.Cycles o)
    {f : Fault} (hf : o.result = .error f) : o.state.phase = .halted f := by
  cases h with
  | again hp =>
    cases hf
    exact hp
  | unfetched _ _ | unread _ _ _ | refused _ _ _ _ =>
    cases hf
    rfl
  | idle _ _ | key _ _ | carriedOut _ _ _ _ => cases hf

/-- A cycle that reports no fault leaves the machine running or waiting. -/
theorem Cycles.awake {m : Machine ρ} {o : Outcome Fault Unit (Machine ρ)} (h : m.Cycles o)
    (hr : o.result = .ok ()) (f : Fault) : o.state.phase ≠ .halted f := by
  cases h with
  | again _ | unfetched _ _ | unread _ _ _ | refused _ _ _ _ => cases hr
  | idle hp _ =>
    intro hf
    rw [hp] at hf
    cases hf
  | key _ _ =>
    intro hf
    cases hf
  | @carriedOut _ i hp _ _ _ => exact phaseAfter_ne_halted (m := m.past) hp i f

/-- With a next instruction that the machine does not refuse, a cycle carries it out. -/
theorem Cycles.of_next? {m : Machine ρ} {o : Outcome Fault Unit (Machine ρ)} (h : m.Cycles o)
    {i : Instruction} (hi : m.next? = some i) (hr : m.past.refusal i = none) :
    o.result = .ok () ∧ o.state = m.past.effect i := by
  obtain ⟨hp, word, hf, hd⟩ := read_of_next? hi
  cases h with
  | again hp' | idle hp' _ | key hp' _ => cases hp.symm.trans hp'
  | unfetched _ hf' => cases hf.symm.trans hf'
  | unread _ hf' hn =>
    cases hf.symm.trans hf'
    cases hn.symm.trans (Instruction.decode_eq_ok_iff.mp hd)
  | refused _ hf' hd' hr' =>
    cases hf.symm.trans hf'
    cases hd.symm.trans hd'
    cases hr.symm.trans hr'
  | carriedOut _ hf' hd' _ =>
    cases hf.symm.trans hf'
    cases hd.symm.trans hd'
    exact ⟨rfl, rfl⟩

/-- A cycle does what the case of `Cycles` says, and nothing else. -/
theorem cycle_eq_ok_iff {m : Machine ρ} {o : Outcome Fault Unit (Machine ρ)}
    (hw : m.WaitsInRange) : m.cycle = .ok o ↔ m.Cycles o := by
  constructor
  · intro h
    obtain ⟨o', ho⟩ := exists_cycles m
    rw [cycle_of_cycles hw ho] at h
    cases h
    exact ho
  · exact cycle_of_cycles hw

/-- What a cycle gives is a case of `Cycles`, even if the machine waits for a register that does not
exist. -/
theorem cycles_of_cycle {m : Machine ρ} {o : Outcome Fault Unit (Machine ρ)}
    (h : m.cycle = .ok o) : m.Cycles o := by
  by_cases hw : m.WaitsInRange
  · exact (cycle_eq_ok_iff hw).mp h
  · -- As long as no key is down such a wait goes on like any other, and then it has no outcome.
    obtain ⟨x, hp, hx⟩ : ∃ x, m.phase = .waiting x ∧ ¬ x < 16 := by
      simpa [WaitsInRange] using hw
    have hn (value : UInt8) : m.registers.set x value = .error (.noSuchRegister x) :=
      dif_neg fun hlt ↦ hx (UInt8.lt_iff_toNat_lt.mpr hlt)
    rw [cycle, hp] at h
    cases hk : m.keypad.firstDown with
    | none =>
      simp only [takeKey, hk] at h
      cases h
      exact .idle hp hk
    | some key =>
      simp only [takeKey, hk, hn] at h
      cases h

/-- A cycle always has an outcome. -/
theorem exists_cycle {m : Machine ρ} (hw : m.WaitsInRange) : ∃ o, m.cycle = .ok o := by
  obtain ⟨o, ho⟩ := exists_cycles m
  exact ⟨o, cycle_of_cycles hw ho⟩

end Machine
end Chip8
