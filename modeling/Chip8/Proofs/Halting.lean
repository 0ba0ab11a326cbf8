import Chip8.Proofs.Commands

/-!
# Halted machines

A machine that has halted tells the truth about why: the fault it reports fits its stack, its
counter and its memory for as long as it stays halted. It stays so, and reports that fault, until
a program is loaded or it is resumed past an unknown opcode.
-/

namespace Chip8

/-- A word of the class of machine code calls, other than the two that class 0 has for itself. -/
def Instruction.CallsMachineCode (word : UInt16) : Prop :=
  word < 0x1000 ∧ word ≠ 0x00E0 ∧ word ≠ 0x00EE

/-- A command that a machine halted at `fault` does not stay halted under: a program that fits, or
the resumption past an unknown opcode. -/
def Command.Wakes (fault : Fault) : Command → Prop
  | .load program => program.length ≤ maxProgramSize
  | .loadFrom reading => reading.failure = none ∧ reading.bytes.length ≤ maxProgramSize
  | .resume => ∃ word, fault = .unknownOpcode word
  | .cycle | .tick | .setKey _ _ | .setKeys _ => False

/-- A word that is read as a machine code call is the address it calls. -/
theorem Instruction.callsMachineCode_of_decode {word addr : UInt16}
    (h : decode word = .ok (.sys addr)) : addr = word ∧ CallsMachineCode word := by
  obtain ⟨hi, he⟩ := reads_of_ofWord? (decode_eq_ok_iff.mp h)
  have hw : addr = word := by
    rw [← he]
    change addr = UInt16.ofNat (0 * 0x1000 + addr.toNat)
    rw [Nat.zero_mul, Nat.zero_add, UInt16.ofNat_toNat]
  rw [← hw]
  exact ⟨rfl, hi⟩

namespace Machine

variable {ρ : Type}

/-- What has to be so for a machine to have halted at a fault. -/
def Explains (m : Machine ρ) : Fault → Prop
  | .stackOverflow => m.stack.depth = 16
  | .stackUnderflow => m.stack.depth = 0
  | .unknownOpcode word =>
    2 ≤ m.registers.pc ∧ m.memory.readWord (m.registers.pc - 2) = .ok word ∧
      (Instruction.ofWord? word = none ∨
        Instruction.CallsMachineCode word ∧ m.dialect.sysCalls = .fault)
  | .outOfBounds addr => 0x1000 ≤ addr ∧ addr ≤ 0xFFFF
  | .programTooLarge _ _ | .invalidKey _ => False

/-- A machine that has halted has done so for a reason. -/
def Truthful (m : Machine ρ) : Prop := ∀ f, m.phase = .halted f → m.Explains f

/-- Two machines that differ in their timers and their keys at most. -/
def Frozen (m m' : Machine ρ) : Prop :=
  ∃ (timers : Timers) (keypad : Keypad), m' = { m with timers, keypad }

/-! ### Telling the truth -/

/-- The reason for a fault lies in the stack, the counter, memory and the dialect. -/
theorem Explains.congr {m m' : Machine ρ} {f : Fault} (h : m.Explains f)
    (hs : m'.stack = m.stack) (hpc : m'.registers.pc = m.registers.pc)
    (hm : m'.memory = m.memory) (hd : m'.dialect = m.dialect) : m'.Explains f := by
  cases f with
  | stackOverflow | stackUnderflow =>
    change m'.stack.depth = _
    rw [hs]
    exact h
  | unknownOpcode word =>
    unfold Explains
    rw [hpc, hm, hd]
    exact h
  | outOfBounds addr => exact h
  | programTooLarge _ _ | invalidKey _ => cases h

/-- The first byte that an access lacks is one that memory does not have. -/
theorem explains_missing (m : Machine ρ) (addr : UInt16) :
    m.Explains (Memory.missing memorySize addr) := by
  have ha := addr.toNat_lt
  change 0x1000 ≤ max addr.toNat 0x1000 ∧ max addr.toNat 0x1000 ≤ 0xFFFF
  omega

/-- A machine past a word that it does not take is right to call it an unknown opcode. -/
theorem explains_unknownOpcode_past {m : Machine ρ} {word : UInt16}
    (hr : m.memory.readWord m.registers.pc = .ok word)
    (hw : Instruction.ofWord? word = none ∨
      Instruction.CallsMachineCode word ∧ m.dialect.sysCalls = .fault) :
    m.past.Explains (.unknownOpcode word) := by
  refine ⟨?_, ?_, hw⟩
  · rw [UInt16.le_iff_toNat_le, toNat_pc_past hr]
    exact Nat.le_add_left 2 _
  · change m.memory.readWord (m.registers.pc + 2 - 2) = .ok word
    rw [UInt16.add_sub_cancel]
    exact hr

/-- A machine past an instruction that it refuses is right about the fault. -/
theorem explains_refusal {m : Machine ρ} {word : UInt16} {i : Instruction} {f : Fault}
    (hr : m.memory.readWord m.registers.pc = .ok word) (hi : Instruction.decode word = .ok i)
    (hf : m.past.refusal i = some f) : m.past.Explains f := by
  rcases refusal_cases hf with ⟨addr, rfl, hs, rfl⟩ | ⟨_, _, hd, rfl⟩ | ⟨_, hd, rfl⟩ | rfl
  · obtain ⟨rfl, hc⟩ := Instruction.callsMachineCode_of_decode hi
    exact explains_unknownOpcode_past hr (.inr ⟨hc, hs⟩)
  · exact hd
  · exact hd
  · exact explains_missing m.past _

/-- A machine that has not halted has nothing to explain. -/
theorem truthful_of_unhalted {m : Machine ρ} (h : ∀ f, m.phase ≠ .halted f) : m.Truthful :=
  fun f hf ↦ absurd hf (h f)

variable [RandomSource ρ]

/-- A cycle leaves a truthful machine truthful. -/
theorem Truthful.cycles {m : Machine ρ} (h : m.Truthful) {o : Outcome Fault Unit (Machine ρ)}
    (ho : m.Cycles o) : o.state.Truthful := by
  intro f hf
  cases ho with
  | again _ | idle _ _ => exact h f hf
  | key _ _ => cases hf
  | unfetched _ hr =>
    cases hf
    obtain ⟨_, rfl⟩ := Memory.readWord_eq_error_iff.mp hr
    exact explains_missing m _ |>.congr rfl rfl rfl rfl
  | unread _ hr hi =>
    cases hf
    exact explains_unknownOpcode_past hr (.inl hi) |>.congr rfl rfl rfl rfl
  | refused _ hr hi href =>
    cases hf
    exact explains_refusal hr hi href |>.congr rfl rfl rfl rfl
  | @carriedOut _ i hp _ _ _ => exact absurd hf (phaseAfter_ne_halted (m := m.past) hp i f)

/-- Every command leaves a truthful machine truthful. -/
theorem Truthful.obeys {m : Machine ρ} (h : m.Truthful) {c : Command}
    {o : Outcome LoadError Unit (Machine ρ)} (ho : m.Obeys c o) : o.state.Truthful := by
  induction ho with
  | tooLarge _ | unread _ | stuck _ _ | unhalted _ | noKey _ => exact h
  | read _ _ ih => exact ih
  | cycled hc => exact h.cycles hc
  | loaded _ | resumed _ =>
    apply truthful_of_unhalted
    intro f hf
    cases hf
  | ticked | keySet _ | keysSet => exact fun f hf ↦ (h f hf).congr rfl rfl rfl rfl

/-! ### Staying halted -/

/-- What a machine that has halted makes of a command that does not wake it. -/
structure StaysHalted (m : Machine ρ) (f : Fault) (c : Command)
    (o : Outcome LoadError Unit (Machine ρ)) : Prop where
  phase : o.state.phase = .halted f
  frozen : m.Frozen o.state
  /-- A cycle and a resumption report the fault. -/
  reported : c = .cycle ∨ c = .resume → o.result = .error (.fault f)

/-- A command that does not wake a halted machine leaves it halted. -/
theorem Obeys.staysHalted {m : Machine ρ} {c : Command} {o : Outcome LoadError Unit (Machine ρ)}
    (h : m.Obeys c o) {f : Fault} (hp : m.phase = .halted f) (hc : ¬ c.Wakes f) :
    m.StaysHalted f c o := by
  cases h with
  | tooLarge _ | unread _ | noKey _ => exact ⟨hp, ⟨_, _, rfl⟩, by simp⟩
  | loaded hs => exact absurd hs hc
  | read hf hl =>
    cases hl with
    | tooLarge _ => exact ⟨hp, ⟨_, _, rfl⟩, by simp⟩
    | loaded hs => exact absurd ⟨hf, hs⟩ hc
  | cycled ho =>
    cases ho with
    | again hp' =>
      cases hp.symm.trans hp'
      exact ⟨hp, ⟨_, _, rfl⟩, fun _ ↦ rfl⟩
    | idle hp' _ | key hp' _ | unfetched hp' _ | unread hp' _ _ | refused hp' _ _ _
    | carriedOut hp' _ _ _ => cases hp.symm.trans hp'
  | resumed hp' =>
    cases hp.symm.trans hp'
    exact absurd ⟨_, rfl⟩ hc
  | stuck hp' _ =>
    cases hp.symm.trans hp'
    exact ⟨hp, ⟨_, _, rfl⟩, fun _ ↦ rfl⟩
  | unhalted hn => exact absurd hp (hn f)
  | ticked | keySet _ | keysSet => exact ⟨hp, ⟨_, _, rfl⟩, by simp⟩

/-- Any number of commands that do not wake a halted machine leave it halted, and each cycle and
each resumption among them reports the fault. -/
theorem history_staysHalted {m : Machine ρ} {f : Fault} (hp : m.phase = .halted f)
    {commands : List Command} (hc : ∀ c ∈ commands, ¬ c.Wakes f) :
    ∃ later, m.history commands = .ok later ∧ later.state.phase = .halted f ∧
      m.Frozen later.state ∧
      ∀ (i : Nat) (c : Command), commands[i]? = some c → c = .cycle ∨ c = .resume →
        later.results[i]? = some (.error (.fault f)) := by
  induction commands generalizing m with
  | nil => exact ⟨⟨[], m, #[]⟩, rfl, hp, ⟨_, _, rfl⟩, by simp⟩
  | cons c commands ih =>
    have hw : m.WaitsInRange := by
      intro x hx
      cases hp.symm.trans hx
    obtain ⟨o, ho⟩ := exists_obeys m c
    obtain ⟨hpo, ⟨timers, keypad, hso⟩, hro⟩ := ho.staysHalted hp (hc c List.mem_cons_self)
    obtain ⟨later, hl, hpl, ⟨timers', keypad', hsl⟩, hrl⟩ :=
      ih hpo fun d hd ↦ hc d (List.mem_cons_of_mem c hd)
    refine ⟨⟨o.result :: later.results, later.state, o.log ++ later.log⟩, ?_, hpl,
      ⟨timers', keypad', ?_⟩, ?_⟩
    · simp only [history, obey_of_obeys hw ho, hl]
    · rw [hsl, hso]
    · intro i d hd hr
      cases i with
      | zero =>
        cases hd
        rw [List.getElem?_cons_zero, hro hr]
      | succ i => exact hrl i d hd hr

/-- A command that wakes a halted machine succeeds and lets it run. If the command is to resume,
nothing else has changed. -/
theorem Obeys.wakes {m : Machine ρ} {c : Command} {o : Outcome LoadError Unit (Machine ρ)}
    (h : m.Obeys c o) {f : Fault} (hp : m.phase = .halted f) (hc : c.Wakes f) :
    o.result = .ok () ∧ o.state.phase = .running ∧
      (c = .resume → o.state = { m with phase := .running }) := by
  cases h with
  | tooLarge hs => exact absurd hc (Nat.not_le_of_lt hs)
  | loaded _ => exact ⟨rfl, rfl, by simp⟩
  | unread hf =>
    rw [hc.1] at hf
    cases hf
  | read _ hl =>
    cases hl with
    | tooLarge hs => exact absurd hc.2 (Nat.not_le_of_lt hs)
    | loaded _ => exact ⟨rfl, rfl, by simp⟩
  | resumed _ => exact ⟨rfl, rfl, fun _ ↦ rfl⟩
  | stuck hp' hn =>
    cases hp.symm.trans hp'
    obtain ⟨word, hf⟩ := hc
    exact absurd hf (hn word)
  | unhalted hn => exact absurd hp (hn f)
  | cycled _ | ticked | noKey _ | keySet _ | keysSet => cases hc

/-- A machine that has halted, after any commands since power on, has done so for the reason that it
reports. It stays as it is, but for its timers and its keys, and reports that fault until it is
woken by a program that fits or by resuming past an unknown opcode. -/
theorem halted_sticky (random : ρ) (dialect : Dialect) (commands : List Command) :
    ∃ past, (powerOn random dialect).history commands = .ok past ∧
      ∀ f, past.state.phase = .halted f →
        past.state.Explains f ∧
        (∀ further, (∀ c ∈ further, ¬ c.Wakes f) →
          ∃ later, past.state.history further = .ok later ∧ later.state.phase = .halted f ∧
            past.state.Frozen later.state ∧
            ∀ (i : Nat) (c : Command), further[i]? = some c → c = .cycle ∨ c = .resume →
              later.results[i]? = some (.error (.fault f))) ∧
        ∀ c, c.Wakes f →
          ∃ o, past.state.obey c = .ok o ∧ o.result = .ok () ∧ o.state.phase = .running ∧
            (c = .resume → o.state = { past.state with phase := .running }) := by
  have hw : (powerOn random dialect).WaitsInRange := by
    intro x hx
    cases hx
  have ht : (powerOn random dialect).Truthful := by
    apply truthful_of_unhalted
    intro f hf
    cases hf
  obtain ⟨past, hp, hwp, htp⟩ :=
    exists_history_of_obeys (P := Truthful) (fun _ h _ _ ho ↦ h.obeys ho) hw ht commands
  refine ⟨past, hp, ?_⟩
  intro f hf
  refine ⟨htp f hf, fun further hc ↦ history_staysHalted hf hc, ?_⟩
  intro c hc
  obtain ⟨o, ho⟩ := exists_obeys past.state c
  exact ⟨o, obey_of_obeys hwp ho, ho.wakes hf hc⟩

/-- A machine that meets a call into machine code halts there, stays halted and can be resumed. -/
theorem halted_sticky_machineCode :
    ∃ past, (powerOn (Cyclic.ofList []) .standard).history [.load [0x01, 0x23], .cycle] =
        .ok past ∧
      past.state.Explains (.unknownOpcode 0x0123) ∧
      (∃ later, past.state.history [.tick, .setKey 3 true, .cycle] = .ok later ∧
        later.state.phase = .halted (.unknownOpcode 0x0123) ∧
        later.results[2]? = some (.error (.fault (.unknownOpcode 0x0123)))) ∧
      ∃ o, past.state.obey .resume = .ok o ∧
        o.state = { past.state with phase := .running } := by
  obtain ⟨past, hp, h⟩ :=
    halted_sticky (Cyclic.ofList []) .standard [.load [0x01, 0x23], .cycle]
  have hphase : ((powerOn (Cyclic.ofList []) .standard).history
      [.load [0x01, 0x23], .cycle]).toOption.map (·.state.phase) =
        some (.halted (.unknownOpcode 0x0123)) := by
    decide +kernel
  rw [hp] at hphase
  obtain ⟨htruth, hstays, hwakes⟩ := h (.unknownOpcode 0x0123) (Option.some.inj hphase)
  obtain ⟨later, hl, hpl, _, hrl⟩ :=
    hstays [.tick, .setKey 3 true, .cycle] (by simp [Command.Wakes])
  obtain ⟨o, ho, _, _, hs⟩ := hwakes .resume ⟨0x0123, rfl⟩
  exact ⟨past, hp, htruth, ⟨later, hl, hpl, hrl 2 .cycle rfl (.inl rfl)⟩, o, ho, hs rfl⟩

end Machine
end Chip8
