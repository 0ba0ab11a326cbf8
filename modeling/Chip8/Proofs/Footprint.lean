import Chip8.Proofs.Atomicity

/-!
# Footprints

What a cycle may change, part by part. An instruction has a footprint: the parts of a machine that
it may write, read off its name and its operands. A cycle leaves every part outside the footprint
alone, whether or not it faults, and moves the counter on by one word, or by two over a word that
is skipped, unless the instruction says where to go.
-/

namespace Chip8

/-- A part of a machine other than its counter. -/
inductive Part where
  /-- The byte of memory at an address. -/
  | cell (addr : Nat)
  /-- One of the byte registers. -/
  | register (z : UInt8)
  | index
  /-- The pending addresses, their number and the stale slots. -/
  | stack
  | delay
  | sound
  | keypad
  | screen
  | random
  | dialect
  | phase

namespace Instruction

/-- A part lies in the footprint of an instruction, when I is `index`. -/
def Touches (i : Instruction) (index : UInt16) : Part → Prop
  | .cell addr =>
    match i with
    | .storeDecimal _ => index.toNat ≤ addr ∧ addr ≤ index.toNat + 2
    | .storeRegisters x => index.toNat ≤ addr ∧ addr ≤ index.toNat + x.toNat
    | _ => False
  | .register z =>
    match i with
    | .loadByte x _ | .addByte x _ | .move x _ | .or x _ | .and x _ | .xor x _ | .random x _
    | .readDelay x => z = x
    | .add x _ | .sub x _ | .shiftRight x _ | .subFrom x _ | .shiftLeft x _ =>
      z = x ∨ z = Registers.flag
    | .draw _ _ _ => z = Registers.flag
    | .loadRegisters x => z ≤ x
    | _ => False
  | .index =>
    match i with
    | .loadIndex _ | .addIndex _ | .loadGlyph _ => True
    | _ => False
  | .stack =>
    match i with
    | .call _ | .ret => True
    | _ => False
  | .delay =>
    match i with
    | .setDelay _ => True
    | _ => False
  | .sound =>
    match i with
    | .setSound _ => True
    | _ => False
  | .screen =>
    match i with
    | .clear | .draw _ _ _ => True
    | _ => False
  | .random =>
    match i with
    | .random _ _ => True
    | _ => False
  | .phase =>
    match i with
    | .waitKey _ => True
    | _ => False
  | .keypad | .dialect => False

/-- An instruction that says where to go. -/
def Jumps : Instruction → Prop
  | .jump _ | .call _ | .ret | .jumpOffset _ => True
  | _ => False

end Instruction

namespace Machine

variable {ρ : Type}

/-- Two machines agree on a part. -/
def SameAt (m m' : Machine ρ) : Part → Prop
  | .cell addr => m'.memory.cells[addr]? = m.memory.cells[addr]?
  | .register z => m'.v z = m.v z
  | .index => m'.registers.index = m.registers.index
  | .stack => m'.stack = m.stack
  | .delay => m'.timers.delay = m.timers.delay
  | .sound => m'.timers.sound = m.timers.sound
  | .keypad => m'.keypad = m.keypad
  | .screen => m'.screen = m.screen
  | .random => m'.random = m.random
  | .dialect => m'.dialect = m.dialect
  | .phase => m'.phase = m.phase

/-- Machines of which one is the other untouched agree on all parts but the phase. -/
theorem Untouched.sameAt {m m' : Machine ρ} (h : m.Untouched m') {part : Part}
    (hp : part ≠ .phase) : m.SameAt m' part := by
  cases part with
  | cell addr => rw [SameAt, h.memory]
  | register z => simp only [SameAt, Machine.v, Registers.read, h.v]
  | index => exact h.index
  | stack => exact h.stack
  | delay => rw [SameAt, h.timers]
  | sound => rw [SameAt, h.timers]
  | keypad => exact h.keypad
  | screen => exact h.screen
  | random => exact h.random
  | dialect => exact h.dialect
  | phase => exact absurd rfl hp

/-! ### The effect of an instruction -/

/-- Memory changes where an instruction stores something. -/
theorem cell_memoryAfter (m : Machine ρ) {i : Instruction} {addr : Nat}
    (h : ¬ i.Touches m.registers.index (.cell addr)) :
    (m.memoryAfter i).cells[addr]? = m.memory.cells[addr]? := by
  cases i with
  | storeDecimal x =>
    have hout : ¬ (m.registers.index.toNat ≤ addr ∧ addr ≤ m.registers.index.toNat + 2) := h
    apply getElem?_overwrite_of_outside
    simp only [decimalDigits, List.length_cons, List.length_nil]
    omega
  | storeRegisters x =>
    have hout : ¬ (m.registers.index.toNat ≤ addr ∧
      addr ≤ m.registers.index.toNat + x.toNat) := h
    apply getElem?_overwrite_of_outside
    rw [List.length_take]
    omega
  | _ => rfl

variable [RandomSource ρ]

/-- A register changes if it takes a result, a flag or a byte from memory. -/
theorem read_bankAfter (m : Machine ρ) {i : Instruction} {z : UInt8}
    (h : ¬ i.Touches m.registers.index (.register z)) : (m.bankAfter i).read z = m.v z := by
  cases i with
  | loadByte x _ | addByte x _ | move x _ | or x _ | and x _ | xor x _ | random x _
  | readDelay x => exact Registers.read_write_of_ne h
  | add x _ | sub x _ | shiftRight x _ | subFrom x _ | shiftLeft x _ =>
    obtain ⟨hx, hf⟩ := not_or.mp h
    exact Registers.read_setFlag_write_of_ne hx hf
  | draw _ _ _ => exact Registers.read_setFlag_of_ne h
  | loadRegisters x =>
    have hz : ¬ z ≤ x := h
    rw [UInt8.le_iff_toNat_le] at hz
    rw [bankAfter, v, Registers.read, Registers.read, getElem?_overwrite_of_outside]
    rw [Memory.window, List.length_take]
    omega
  | _ => rfl

/-- The effect of an instruction stays inside its footprint. -/
theorem sameAt_effect (m : Machine ρ) {i : Instruction} {part : Part}
    (h : ¬ i.Touches m.registers.index part) : m.SameAt (m.effect i) part := by
  cases part with
  | cell addr => exact cell_memoryAfter m h
  | register z => exact read_bankAfter m h
  | index =>
    cases i with
    | loadIndex _ | addIndex _ | loadGlyph _ => exact absurd trivial h
    | _ => rfl
  | stack =>
    cases i with
    | call _ | ret => exact absurd trivial h
    | _ => rfl
  | delay =>
    cases i with
    | setDelay _ => exact absurd trivial h
    | _ => rfl
  | sound =>
    cases i with
    | setSound _ => exact absurd trivial h
    | _ => rfl
  | screen =>
    cases i with
    | clear | draw _ _ _ => exact absurd trivial h
    | _ => rfl
  | random =>
    cases i with
    | random _ _ => exact absurd trivial h
    | _ => rfl
  | phase =>
    cases i with
    | waitKey _ => exact absurd trivial h
    | _ => rfl
  | keypad | dialect => rfl

omit [RandomSource ρ] in
/-- An instruction that does not say where to go skips a word or does not. -/
theorem pcAfter_of_not_jumps (m : Machine ρ) {i : Instruction} (h : ¬ i.Jumps) :
    m.pcAfter i = if m.skips i then m.registers.pc + 2 else m.registers.pc := by
  cases i with
  | jump _ | call _ | ret | jumpOffset _ => exact absurd trivial h
  | _ => rfl

/-! ### One cycle -/

/-- The next instruction touches a part. -/
def NextTouches (m : Machine ρ) (part : Part) : Prop :=
  ∃ i, m.next? = some i ∧ i.Touches m.registers.index part

/-- A cycle of a running machine leaves alone what its instruction does not touch, and its phase if
it does not fault. -/
theorem Cycles.sameAt {m : Machine ρ} {o : Outcome Fault Unit (Machine ρ)} (h : m.Cycles o)
    (hp : m.phase = .running) {part : Part} (ht : ¬ m.NextTouches part)
    (hf : part = .phase → o.result = .ok ()) : m.SameAt o.state part := by
  have hph {f : Fault} (hr : o.result = .error f) : part ≠ .phase := by
    intro he
    rw [hf he] at hr
    cases hr
  cases h with
  | again hp' | idle hp' _ | key hp' _ =>
    rw [hp] at hp'
    cases hp'
  | unfetched _ _ => exact (untouched_halt m _).sameAt (hph rfl)
  | unread _ _ _ | refused _ _ _ _ => exact (untouched_halt_past m _).sameAt (hph rfl)
  | @carriedOut _ i _ hr hi _ =>
    have hn : ¬ i.Touches m.registers.index part := fun h ↦ ht ⟨i, next?_of_read hp hr hi, h⟩
    exact sameAt_effect m.past hn

/-- A cycle that does not fault moves the counter past one word, or two if it skips one, unless its
instruction says where to go. -/
theorem Cycles.pc_of_ok {m : Machine ρ} {o : Outcome Fault Unit (Machine ρ)} (h : m.Cycles o)
    (hp : m.phase = .running) (hr : o.result = .ok ()) :
    ∃ i, m.next? = some i ∧ (¬ i.Jumps → o.state.registers.pc.toNat =
      m.registers.pc.toNat + if m.skips i then 4 else 2) := by
  cases h with
  | again hp' | idle hp' _ | key hp' _ =>
    rw [hp] at hp'
    cases hp'
  | unfetched _ _ | unread _ _ _ | refused _ _ _ _ => cases hr
  | @carriedOut _ i _ hf hi _ =>
    refine ⟨i, next?_of_read hp hf hi, fun hj ↦ ?_⟩
    have hpast := toNat_pc_past hf
    have hle : m.registers.pc.toNat + 2 ≤ 4096 := Memory.le_of_readWord hf
    change (m.past.pcAfter i).toNat = _
    rw [pcAfter_of_not_jumps m.past hj, show m.past.skips i = m.skips i from rfl]
    by_cases hs : m.skips i
    · rw [if_pos hs, if_pos hs, UInt16.toNat_add, hpast]
      change (m.registers.pc.toNat + 2 + 2) % 2 ^ 16 = m.registers.pc.toNat + 4
      omega
    · rw [if_neg hs, if_neg hs, hpast]

/-- The cycle of a running machine leaves every part outside the footprint of its instruction alone,
also when it faults, in which case it halts there. An instruction that takes a random byte takes
one. Without a fault the counter moves past one word, or past two if a skip is taken, unless the
instruction says where to go. -/
theorem cycle_within_footprint {m : Machine ρ} (hp : m.phase = .running) :
    ∃ o, m.cycle = .ok o ∧
      (∀ part, ¬ m.NextTouches part → (part = .phase → o.result = .ok ()) →
        m.SameAt o.state part) ∧
      (∀ f, o.result = .error f → o.state.phase = .halted f) ∧
      (∀ x nn, m.next? = some (.random x nn) →
        o.result = .ok () ∧ o.state.random = (RandomSource.next m.random).2) ∧
      (o.result = .ok () → ∃ i, m.next? = some i ∧ (¬ i.Jumps → o.state.registers.pc.toNat =
        m.registers.pc.toNat + if m.skips i then 4 else 2)) := by
  have hw : m.WaitsInRange := by
    intro x hx
    rw [hp] at hx
    cases hx
  obtain ⟨o, ho⟩ := exists_cycles m
  refine ⟨o, cycle_of_cycles hw ho, fun part ht hf ↦ ho.sameAt hp ht hf, fun f hf ↦ ho.halted hf,
    ?_, ho.pc_of_ok hp⟩
  intro x nn hi
  obtain ⟨hr, hs⟩ := ho.of_next? hi rfl
  rw [hs]
  exact ⟨hr, rfl⟩

/-- A machine whose counter is at `F355`, which stores four registers, with four bytes of memory
left from I on. -/
def storingAtTop : Machine Cyclic :=
  { powerOn (Cyclic.ofList [0xA5]) .standard with
    memory := Memory.powerOn.put 0x200 [0xF3, 0x55]
    registers := ⟨Vector.replicate 16 0xFF, 0x0FFC, 0x200⟩ }

/-- The store of four registers leaves the byte below its first alone, and the registers that it
reads. -/
theorem cycle_within_footprint_store :
    storingAtTop.phase = .running ∧ storingAtTop.next? = some (.storeRegisters 3) ∧
      ∃ o, storingAtTop.cycle = .ok o ∧
        storingAtTop.SameAt o.state (.cell 0xFFB) ∧
        ∀ z, storingAtTop.SameAt o.state (.register z) := by
  have hn : storingAtTop.next? = some (.storeRegisters 3) := by decide +kernel
  obtain ⟨o, ho, hsame, _⟩ := cycle_within_footprint (m := storingAtTop) rfl
  refine ⟨rfl, hn, o, ho, hsame _ ?_ (by simp), fun z ↦ hsame _ ?_ (by simp)⟩
  · rintro ⟨i, hi, ht⟩
    cases hn.symm.trans hi
    exact absurd ht.1 (by decide)
  · rintro ⟨i, hi, ht⟩
    cases hn.symm.trans hi
    exact ht

end Machine
end Chip8
