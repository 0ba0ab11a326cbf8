import Chip8.Proofs.Commands
import Chip8.Random.ChaCha

/-!
# Noninterference

What a program does not look at cannot influence it. The keys, the source of random bytes and the
dialect are the surroundings of a machine, the rest is its inside. Two machines that are the same
inside do the same and stay the same inside, in whatever surroundings, for as long as the first of
them neither waits for a key nor carries out an instruction that looks at the surroundings.
-/

namespace Chip8

/-- Setting a key is refused for the number of the key, whatever the state of the keys. -/
theorem Keypad.set_eq_error_iff {k : Keypad} {key : Nat} {down : Bool} {f : Fault} :
    k.set key down = .error f ↔ 16 ≤ key ∧ f = .invalidKey key := by
  unfold set
  split
  · simp
    omega
  · simp [eq_comm]
    omega

namespace Machine

variable {ρ σ : Type}

/-- Two machines are the same inside: they differ in their keys, their source of random bytes, which
may be of another kind, and their dialect at most. -/
structure SameInside (m : Machine ρ) (m' : Machine σ) : Prop where
  memory : m'.memory = m.memory
  registers : m'.registers = m.registers
  /-- The pointer, the pending addresses and the stale slots above them. -/
  stack : m'.stack = m.stack
  timers : m'.timers = m.timers
  screen : m'.screen = m.screen
  phase : m'.phase = m.phase

/-- Whether an instruction looks at the surroundings, where the dialect could also be another one.
It looks at the dialect only if the two make a difference to it. -/
def looksOut (m : Machine ρ) (other : Dialect) : Instruction → Bool
  | .random _ _ | .skipKeyDown _ | .skipKeyUp _ => true
  | .sys _ => m.dialect.sysCalls != other.sysCalls
  | .shiftRight x y | .shiftLeft x y =>
    m.dialect.shiftSource != other.shiftSource && m.v x != m.v y
  | _ => false

/-- Whether the next cycle looks at the surroundings: it looks for a key, or its instruction looks
at them. -/
def nextLooksOut (m : Machine ρ) (other : Dialect) : Bool :=
  match m.phase with
  | .waiting _ => true
  | .running | .halted _ => m.next?.any (m.looksOut other)

/-- A machine whose next cycle does not look for a key does not wait for one. -/
theorem not_waiting_of_nextLooksOut {m : Machine ρ} {other : Dialect}
    (h : m.nextLooksOut other = false) (x : UInt8) : m.phase ≠ .waiting x := by
  intro hp
  rw [nextLooksOut, hp] at h
  cases h

/-- The instruction of a cycle that does not look at the surroundings does not look at them. -/
theorem looksOut_of_next? {m : Machine ρ} {other : Dialect} (h : m.nextLooksOut other = false)
    {i : Instruction} (hi : m.next? = some i) : m.looksOut other i = false := by
  obtain ⟨hp, -⟩ := read_of_next? hi
  rw [nextLooksOut, hp, hi] at h
  exact h

/-! ### One instruction -/

/-- Passing over machine code is an event in a dialect in which it is ignored. -/
theorem executionLog_sys (m : Machine ρ) (addr : UInt16) :
    m.executionLog (.sys addr) =
      match m.dialect.sysCalls with
      | .ignore => #[.ignoredSys addr]
      | .fault => #[] := rfl

/-- A shift that two dialects do not tell apart shifts the same byte in both. -/
theorem v_shiftOperand {m : Machine ρ} {other : Dialect} {x y : UInt8}
    (h : (m.dialect.shiftSource != other.shiftSource && m.v x != m.v y) = false) :
    m.v (shiftOperand other x y) = m.v (shiftOperand m.dialect x y) := by
  by_cases hd : m.dialect.shiftSource = other.shiftSource
  · rw [shiftOperand, shiftOperand, hd]
  · have hv : m.v x = m.v y := by simpa [hd] using h
    unfold shiftOperand
    split
    · split
      · rfl
      · exact hv
    · split
      · exact hv.symm
      · rfl

/-- Two machines note the same events at an instruction that does not look at their dialects. -/
theorem executionLog_of_looksOut {m : Machine ρ} {m' : Machine σ} {i : Instruction}
    (hi : m.looksOut m'.dialect i = false) : m'.executionLog i = m.executionLog i := by
  cases i with
  | sys addr =>
    have hd : m.dialect.sysCalls = m'.dialect.sysCalls := bne_eq_false_iff_eq.mp hi
    rw [executionLog_sys, executionLog_sys, hd]
  | _ => rfl

namespace SameInside

variable {m : Machine ρ} {m' : Machine σ}

/-- Machines that are the same inside stay so when both halt at one fault. -/
theorem halt (h : m.SameInside m') (f : Fault) : (m.halt f).SameInside (m'.halt f) :=
  ⟨h.memory, h.registers, h.stack, h.timers, h.screen, rfl⟩

/-- Machines that are the same inside stay so when both move past the next word. -/
theorem past (h : m.SameInside m') : m.past.SameInside m'.past where
  memory := h.memory
  registers := by
    change { m'.registers with pc := m'.registers.pc + 2 } = _
    rw [h.registers]
    rfl
  stack := h.stack
  timers := h.timers
  screen := h.screen
  phase := h.phase

/-- An instruction that does not look at the surroundings is refused in both machines or in
neither. -/
theorem refusal (h : m.SameInside m') {i : Instruction}
    (hi : m.looksOut m'.dialect i = false) : m'.refusal i = m.refusal i := by
  cases i with
  | sys addr =>
    have hd : m.dialect.sysCalls = m'.dialect.sysCalls := bne_eq_false_iff_eq.mp hi
    rw [refusal_sys, refusal_sys, hd]
  | call _ => rw [refusal_call, refusal_call, h.stack]
  | ret => rw [refusal_ret, refusal_ret, h.stack]
  | draw _ _ _ | storeDecimal _ | storeRegisters _ | loadRegisters _ =>
    change m'.lack _ = m.lack _
    rw [lack, lack, h.registers]
  | _ => rfl

variable [RandomSource ρ] [RandomSource σ]

/-- The effect of an instruction that does not look at the surroundings leaves machines that are the
same inside. -/
theorem effect (h : m.SameInside m') {i : Instruction}
    (hi : m.looksOut m'.dialect i = false) : (m.effect i).SameInside (m'.effect i) := by
  rcases m with ⟨_, _, _, _, keypad, _, random, dialect, _⟩
  rcases m' with ⟨memory, registers, stack, timers, keypad', screen, random', dialect', phase⟩
  obtain ⟨rfl, rfl, rfl, rfl, rfl, rfl⟩ := h
  cases i with
  | random _ _ | skipKeyDown _ | skipKeyUp _ => cases hi
  | shiftRight x y | shiftLeft x y =>
    have hv : registers.read (shiftOperand dialect' x y) =
        registers.read (shiftOperand dialect x y) := v_shiftOperand hi
    refine ⟨rfl, ?_, rfl, rfl, rfl, rfl⟩
    simp only [Machine.effect, bankAfter, v, hv]
    rfl
  | _ => exact ⟨rfl, rfl, rfl, rfl, rfl, rfl⟩

end SameInside

/-! ### One command -/

/-- Outcomes with the same result and the same events, which leave machines that are the same
inside. -/
structure SameOutcome {ε : Type} (o : Outcome ε Unit (Machine ρ))
    (o' : Outcome ε Unit (Machine σ)) : Prop where
  result : o'.result = o.result
  log : o'.log = o.log
  inside : o.state.SameInside o'.state

/-- Outcomes that are the same stay so when their errors are seen as ones of loading. -/
theorem SameOutcome.asLoad {o : Outcome Fault Unit (Machine ρ)}
    {o' : Outcome Fault Unit (Machine σ)} (h : SameOutcome o o') :
    SameOutcome o.asLoad o'.asLoad :=
  ⟨congrArg (Except.mapError LoadError.fault) h.result, h.log, h.inside⟩

variable [RandomSource ρ] [RandomSource σ]

/-- A cycle keeps the dialect. -/
theorem Cycles.dialect {m : Machine ρ} {o : Outcome Fault Unit (Machine ρ)} (h : m.Cycles o) :
    o.state.dialect = m.dialect := by
  cases h <;> rfl

/-- Every command keeps the dialect. -/
theorem Obeys.dialect {m : Machine ρ} {c : Command} {o : Outcome LoadError Unit (Machine ρ)}
    (h : m.Obeys c o) : o.state.dialect = m.dialect := by
  induction h with
  | cycled hc => exact hc.dialect
  | read _ _ ih => exact ih
  | _ => rfl

namespace SameInside

variable {m : Machine ρ} {m' : Machine σ}

/-- A cycle that does not look at the surroundings does the same in both machines. -/
theorem cycles (h : m.SameInside m') (hl : m.nextLooksOut m'.dialect = false)
    {o : Outcome Fault Unit (Machine ρ)} (ho : m.Cycles o) :
    ∃ o', m'.Cycles o' ∧ SameOutcome o o' := by
  have hword : m'.memory.readWord m'.registers.pc = m.memory.readWord m.registers.pc := by
    rw [h.memory, h.registers]
  have hpc : m'.registers.pc = m.registers.pc := by rw [h.registers]
  cases ho with
  | again hp => exact ⟨_, .again (h.phase.trans hp), rfl, rfl, h⟩
  | idle hp _ | key hp _ => exact absurd hp (not_waiting_of_nextLooksOut hl _)
  | unfetched hp hf =>
    refine ⟨_, .unfetched (h.phase.trans hp) (hword.trans hf), rfl, ?_, h.halt _⟩
    simp only [stop, hpc]
  | unread hp hf hi =>
    refine ⟨_, .unread (h.phase.trans hp) (hword.trans hf) hi, rfl, ?_, h.past.halt _⟩
    simp only [stop, h.past.registers]
  | @refused word i f hp hf hi hr =>
    have hli : m.past.looksOut m'.past.dialect i = false :=
      looksOut_of_next? hl (next?_of_read hp hf hi)
    have hr' : m'.past.refusal i = some f := (h.past.refusal hli).trans hr
    refine ⟨_, .refused (h.phase.trans hp) (hword.trans hf) hi hr', rfl, ?_, h.past.halt _⟩
    simp only [stop, h.past.registers, hpc]
  | @carriedOut word i hp hf hi hr =>
    have hli : m.past.looksOut m'.past.dialect i = false :=
      looksOut_of_next? hl (next?_of_read hp hf hi)
    have hr' : m'.past.refusal i = none := (h.past.refusal hli).trans hr
    refine ⟨_, .carriedOut (h.phase.trans hp) (hword.trans hf) hi hr', rfl, ?_,
      h.past.effect hli⟩
    simp only [executionLog_of_looksOut hli, hpc]

/-- A command does the same in both machines, if it is no cycle that looks at the surroundings. -/
theorem obeys (h : m.SameInside m') {c : Command}
    (hl : c = .cycle → m.nextLooksOut m'.dialect = false)
    {o : Outcome LoadError Unit (Machine ρ)} (ho : m.Obeys c o) :
    ∃ o', m'.Obeys c o' ∧ SameOutcome o o' := by
  induction ho with
  | tooLarge hs => exact ⟨_, .tooLarge hs, rfl, rfl, h⟩
  | loaded hs => exact ⟨_, .loaded hs, rfl, rfl, rfl, rfl, rfl, rfl, rfl, rfl⟩
  | unread hf => exact ⟨_, .unread hf, rfl, rfl, h⟩
  | read hf _ ih =>
    obtain ⟨o', ho', hs⟩ := ih (by simp)
    exact ⟨o', .read hf ho', hs⟩
  | cycled hc =>
    obtain ⟨o', ho', hs⟩ := h.cycles (hl rfl) hc
    exact ⟨_, .cycled ho', hs.asLoad⟩
  | resumed hp =>
    exact ⟨_, .resumed (h.phase.trans hp), rfl, rfl,
      h.memory, h.registers, h.stack, h.timers, h.screen, rfl⟩
  | stuck hp hn => exact ⟨_, .stuck (h.phase.trans hp) hn, rfl, rfl, h⟩
  | unhalted hp =>
    have hp' : ∀ f, m'.phase ≠ .halted f := by
      intro f
      rw [h.phase]
      exact hp f
    exact ⟨_, .unhalted hp', rfl, rfl, h⟩
  | ticked =>
    have ht : m'.tick.timers = m.tick.timers := by simp only [tick, h.timers]
    exact ⟨_, .ticked, rfl, rfl, h.memory, h.registers, h.stack, ht, h.screen, h.phase⟩
  | noKey hk =>
    obtain ⟨hn, rfl⟩ := Keypad.set_eq_error_iff.mp hk
    exact ⟨_, .noKey (Keypad.set_eq_error_iff.mpr ⟨hn, rfl⟩), rfl, rfl, h⟩
  | @keySet key down keypad hk =>
    cases hk' : m'.keypad.set key down with
    | error f =>
      have hn : m.keypad.set key down = .error f :=
        Keypad.set_eq_error_iff.mpr (Keypad.set_eq_error_iff.mp hk')
      cases hk.symm.trans hn
    | ok keypad' =>
      exact ⟨_, .keySet hk', rfl, rfl,
        h.memory, h.registers, h.stack, h.timers, h.screen, h.phase⟩
  | keysSet =>
    exact ⟨_, .keysSet, rfl, rfl, h.memory, h.registers, h.stack, h.timers, h.screen, h.phase⟩

end SameInside

/-! ### Many commands -/

/-- Two machines that are the same inside give the same results and note the same events at the same
commands, and are the same inside after them, if no cycle of the first looks for a key or carries
out an instruction that looks at the surroundings. -/
theorem unread_without_influence {m : Machine ρ} {m' : Machine σ} (h : m.SameInside m')
    {commands : List Command}
    (hl : m.EachCycle (fun reached ↦ reached.nextLooksOut m'.dialect = false) commands) :
    ∃ past past', m.history commands = .ok past ∧ m'.history commands = .ok past' ∧
      past'.results = past.results ∧ past'.log = past.log ∧
      past.state.SameInside past'.state := by
  induction commands generalizing m m' with
  | nil => exact ⟨_, _, rfl, rfl, rfl, rfl, h⟩
  | cons c commands ih =>
    obtain ⟨o, ho⟩ := exists_obeys m c
    -- A machine that makes a cycle does not wait, whatever register it could wait for.
    have hfirst : c = .cycle → m.nextLooksOut m'.dialect = false := by
      rintro rfl
      exact hl [] commands ⟨[], m, #[]⟩ rfl rfl
    have hw : c = .cycle → m.WaitsInRange :=
      fun hc x hx ↦ absurd hx (not_waiting_of_nextLooksOut (hfirst hc) x)
    obtain ⟨o', ho', hs⟩ := h.obeys hfirst ho
    have hw' : c = .cycle → m'.WaitsInRange := by
      intro hc x hx
      rw [h.phase] at hx
      exact hw hc x hx
    have hob := obey_eq_of_obeys hw ho
    have hlater := ((eachCycle_cons_iff hob).mp hl).2
    rw [← ho'.dialect] at hlater
    obtain ⟨past, past', hp, hp', hresults, hlog, hinside⟩ := ih hs.inside hlater
    refine ⟨_, _, history_cons hob hp, history_cons (obey_eq_of_obeys hw' ho') hp', ?_, ?_,
      hinside⟩
    · simp only [hs.result, hresults]
    · simp only [hs.log, hlog]

/-- A program that shifts a byte between two equal registers, draws a glyph, sets the sound timer
and comes to an unknown opcode. -/
def glyphProgram : List UInt8 :=
  [0x61, 0x05, 0x62, 0x05, 0x81, 0x26, 0xA0, 0x50, 0xD1, 0x25, 0xF2, 0x18, 0xFF, 0xFF, 0x71, 0x01]

/-- A machine of the standard dialect with that program and no key down. -/
def glyphAtHome : Machine Cyclic :=
  { powerOn (Cyclic.ofList [0xA5]) .standard with
    memory := Memory.powerOn.put programAddr glyphProgram }

/-- A machine with that program and another key pad, source of random bytes and dialect. -/
def glyphAbroad : Machine ChaCha :=
  { powerOn (ChaCha.ofSeed 7) ⟨.vy, .ignore⟩ with
    memory := Memory.powerOn.put programAddr glyphProgram
    keypad := .holding [3, 0xC] }

/-- The whole program, with a tick on the way and past the unknown opcode. -/
def glyphCommands : List Command :=
  [.cycle, .cycle, .cycle, .cycle, .tick, .cycle, .cycle, .cycle, .resume, .cycle]

/-- The program does not tell the machine at home from the one abroad. -/
theorem unread_without_influence_glyph :
    glyphAtHome.SameInside glyphAbroad ∧
      glyphAtHome.EachCycle (fun reached ↦ reached.nextLooksOut glyphAbroad.dialect = false)
        glyphCommands ∧
      ∃ past past', glyphAtHome.history glyphCommands = .ok past ∧
        glyphAbroad.history glyphCommands = .ok past' ∧
        past'.results = past.results ∧ past'.log = past.log ∧
        past.state.SameInside past'.state := by
  have h : glyphAtHome.SameInside glyphAbroad := ⟨rfl, rfl, rfl, rfl, rfl, rfl⟩
  have hl : glyphAtHome.EachCycle
      (fun reached ↦ reached.nextLooksOut glyphAbroad.dialect = false) glyphCommands := by
    have hnext : ∀ k < glyphCommands.length,
        (glyphAtHome.history (glyphCommands.take k)).toOption.map
          (fun past ↦ past.state.nextLooksOut ⟨.vy, .ignore⟩) = some false := by
      decide +kernel
    apply eachCycle_of_take
    intro k hk past hp
    have hk' := hnext k hk
    rw [hp] at hk'
    exact Option.some.inj hk'
  exact ⟨h, hl, unread_without_influence h hl⟩

end Machine
end Chip8
