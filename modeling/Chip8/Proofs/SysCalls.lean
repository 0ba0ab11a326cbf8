import Chip8.Device.Rehearsal
import Chip8.Host.Run
import Chip8.Proofs.Skipping

/-!
# Calls into machine code under a host

A machine that faults at calls into machine code halts there, and its host lets it run on past
the call: one cycle, and nothing else has changed. A machine that ignores such calls spends a
cycle on doing nothing. No host can tell the two apart by anything but the events.

The proof runs two machines side by side. They are twins, equal but for how they take such calls,
and stay twins through cycles, frames and runs.
-/

namespace Chip8

/-- The dialect with a shift source in which calls into machine code fault. -/
def Dialect.faulting (shiftSource : ShiftSource) : Dialect := ⟨shiftSource, .fault⟩

/-- The dialect with a shift source in which calls into machine code are ignored. -/
def Dialect.ignoring (shiftSource : ShiftSource) : Dialect := ⟨shiftSource, .ignore⟩

/-- A machine put into another dialect. -/
def Machine.inDialect {ρ : Type} (m : Machine ρ) (dialect : Dialect) : Machine ρ :=
  { m with dialect }

/-- A host whose machine is put into another dialect. -/
def Host.inDialect {ρ ι δ β : Type} (h : Host ρ ι δ β) (dialect : Dialect) : Host ρ ι δ β :=
  { h with machine := h.machine.inDialect dialect }

/-- Two answers are outcomes with the same result, and their states are related. -/
def Alike {ε α σ : Type} (R : σ → σ → Prop) (a b : Except Misuse (Outcome ε α σ)) : Prop :=
  ∃ o p : Outcome ε α σ, a = .ok o ∧ b = .ok p ∧ o.result = p.result ∧ R o.state p.state

namespace Machine

variable {ρ : Type}

/-- Machines that are equal but for their dialect: the first faults at calls into machine code,
the other ignores them. Neither waits for a register that does not exist. -/
structure Twins (shiftSource : ShiftSource) (x y : Machine ρ) : Prop where
  faulting : x.dialect = .faulting shiftSource
  ignoring : y = x.inDialect (.ignoring shiftSource)
  waits : x.WaitsInRange

namespace Twins

variable {shiftSource : ShiftSource} {x y : Machine ρ}

private theorem waits_right (h : Twins shiftSource x y) : y.WaitsInRange := by
  rw [h.ignoring]
  exact h.waits

private theorem setKeys (h : Twins shiftSource x y) (keypad : Keypad) :
    Twins shiftSource (x.setKeys keypad) (y.setKeys keypad) := by
  obtain ⟨hd, rfl, hw⟩ := h
  exact ⟨hd, rfl, hw⟩

private theorem tick (h : Twins shiftSource x y) : Twins shiftSource x.tick y.tick := by
  obtain ⟨hd, rfl, hw⟩ := h
  exact ⟨hd, rfl, hw⟩

private theorem resume (h : Twins shiftSource x y) :
    x.resume.result = y.resume.result ∧ Twins shiftSource x.resume.state y.resume.state := by
  obtain ⟨hd, rfl, hw⟩ := h
  unfold Machine.resume inDialect
  simp only
  split
  · refine ⟨rfl, hd, rfl, ?_⟩
    intro z hz
    cases hz
  · exact ⟨rfl, hd, rfl, hw⟩
  · exact ⟨rfl, hd, rfl, hw⟩
  · exact ⟨rfl, hd, rfl, hw⟩

private theorem overlook {o p : Outcome Fault Unit (Machine ρ)} (hr : o.result = p.result)
    (h : Twins shiftSource o.state p.state) :
    (Machine.overlook o).result = (Machine.overlook p).result ∧
      Twins shiftSource (Machine.overlook o).state (Machine.overlook p).state := by
  unfold Machine.overlook
  rw [← hr]
  split
  · exact h.resume
  · exact ⟨hr, h⟩

end Twins

/-! ### One instruction -/

/-- What a machine refuses depends on the dialect for calls into machine code only. -/
theorem refusal_inDialect (m : Machine ρ) (d : Dialect) {i : Instruction}
    (h : ∀ addr, i ≠ .sys addr) : (m.inDialect d).refusal i = m.refusal i := by
  cases i with
  | sys addr => exact absurd rfl (h addr)
  | _ => rfl

variable [RandomSource ρ]

/-- The effect of an instruction depends on the dialect through the shift source only. -/
theorem effect_inDialect {m : Machine ρ} {d : Dialect}
    (h : d.shiftSource = m.dialect.shiftSource) (i : Instruction) :
    (m.inDialect d).effect i = (m.effect i).inDialect d := by
  cases i with
  | shiftRight x y | shiftLeft x y =>
    simp only [effect, bankAfter, shiftOperand, inDialect, h]
    rfl
  | _ => rfl

namespace Twins

variable {shiftSource : ShiftSource} {x y : Machine ρ}

/-! ### One cycle -/

private theorem alike_of_cycles {o p : Outcome Fault Unit (Machine ρ)}
    (h : Twins shiftSource x y) (ho : x.Cycles o) (hp : y.Cycles p) (hr : o.result = p.result)
    (hd : o.state.dialect = x.dialect)
    (hs : p.state = o.state.inDialect (.ignoring shiftSource)) :
    Alike (Twins shiftSource) x.cycleSkipping y.cycleSkipping := by
  have ht : Twins shiftSource o.state p.state := ⟨hd.trans h.faulting, hs, h.waits.cycles ho⟩
  exact ⟨_, _, cycleSkipping_of_cycles h.waits ho, cycleSkipping_of_cycles h.waits_right hp,
    overlook hr ht⟩

/-- A call into machine code costs both twins one cycle and leaves both past it: the first by way
of a fault, from which it resumes. -/
theorem sysCall (h : Twins shiftSource x y) {word addr : UInt16} (hp : x.phase = .running)
    (hr : x.memory.readWord x.registers.pc = .ok word)
    (hi : Instruction.decode word = .ok (.sys addr)) :
    ∃ o p : Outcome Fault Unit (Machine ρ),
      x.cycle = .ok o ∧ o.result = .error (.unknownOpcode addr) ∧
      o.state.resume.result = .ok () ∧ o.state.resume.state = x.past ∧
      y.cycle = .ok p ∧ p.result = .ok () ∧ p.state = y.past := by
  have hw := h.waits_right
  obtain ⟨hd, rfl, hwx⟩ := h
  have hf : x.past.refusal (.sys addr) = some (.unknownOpcode addr) := by
    rw [refusal_sys]
    rw [show x.past.dialect = .faulting shiftSource from hd]
    rfl
  have hpast : { x.past with phase := .running } = x.past := by
    rw [← hp]
    rfl
  exact ⟨_, _, cycle_of_cycles hwx (.refused hp hr hi hf), rfl, rfl, hpast,
    cycle_of_cycles hw (.carriedOut hp hr hi rfl), rfl, rfl⟩

private theorem alike_of_sys (h : Twins shiftSource x y) {word addr : UInt16}
    (hp : x.phase = .running) (hr : x.memory.readWord x.registers.pc = .ok word)
    (hi : Instruction.decode word = .ok (.sys addr)) :
    Alike (Twins shiftSource) x.cycleSkipping y.cycleSkipping := by
  obtain ⟨⟨_, m, l⟩, ⟨_, _, l'⟩, hx, rfl, hres, hpast, hy, rfl, rfl⟩ := h.sysCall hp hr hi
  have ht : Twins shiftSource x.past y.past := by
    obtain ⟨hd, rfl, hw⟩ := h
    exact ⟨hd, rfl, hw⟩
  refine ⟨⟨.ok (), x.past, l.push (.skipped addr) ++ m.resume.log⟩, ⟨.ok (), y.past, l'⟩,
    ?_, ?_, rfl, ht⟩
  · simp only [Machine.cycleSkipping, hx, hres, hpast]
  · simp only [Machine.cycleSkipping, hy]

/-- Under a host, a cycle does the same to twins. -/
theorem cycleSkipping (h : Twins shiftSource x y) :
    Alike (Twins shiftSource) x.cycleSkipping y.cycleSkipping := by
  have ht := h
  obtain ⟨hd, rfl, _⟩ := h
  obtain ⟨o, ho⟩ := exists_cycles x
  cases ho with
  | again hp => exact ht.alike_of_cycles (.again hp) (.again hp) rfl rfl rfl
  | idle hp hk => exact ht.alike_of_cycles (.idle hp hk) (.idle hp hk) rfl rfl rfl
  | key hp hk => exact ht.alike_of_cycles (.key hp hk) (.key hp hk) rfl rfl rfl
  | unfetched hp hr =>
    exact ht.alike_of_cycles (.unfetched hp hr) (.unfetched hp hr) rfl rfl rfl
  | unread hp hr hi =>
    exact ht.alike_of_cycles (.unread hp hr hi) (.unread hp hr hi) rfl rfl rfl
  | @refused word i f hp hr hi href =>
    by_cases hs : ∃ addr, i = .sys addr
    · obtain ⟨addr, rfl⟩ := hs
      exact ht.alike_of_sys hp hr hi
    · have hn : ∀ addr, i ≠ .sys addr := fun addr h ↦ hs ⟨addr, h⟩
      have hg : (x.inDialect (.ignoring shiftSource)).past.refusal i = some f :=
        (refusal_inDialect x.past (.ignoring shiftSource) hn).trans href
      exact ht.alike_of_cycles (.refused hp hr hi href) (.refused hp hr hi hg) rfl rfl rfl
  | @carriedOut word i hp hr hi href =>
    by_cases hs : ∃ addr, i = .sys addr
    · obtain ⟨addr, rfl⟩ := hs
      exact ht.alike_of_sys hp hr hi
    · have hn : ∀ addr, i ≠ .sys addr := fun addr h ↦ hs ⟨addr, h⟩
      have hg : (x.inDialect (.ignoring shiftSource)).past.refusal i = none :=
        (refusal_inDialect x.past (.ignoring shiftSource) hn).trans href
      have he : (x.inDialect (.ignoring shiftSource)).past.effect i =
          (x.past.effect i).inDialect (.ignoring shiftSource) := by
        apply effect_inDialect (m := x.past) (d := .ignoring shiftSource)
        rw [show x.past.dialect = .faulting shiftSource from hd]
        rfl
      exact ht.alike_of_cycles (.carriedOut hp hr hi href) (.carriedOut hp hr hi hg) rfl rfl he

/-- Under a host, any number of cycles does the same to twins. -/
theorem spend (h : Twins shiftSource x y) (n : Nat) (log log' : Log) :
    Alike (Twins shiftSource) (Machine.spend n x log) (Machine.spend n y log') := by
  induction n generalizing x y log log' with
  | zero => exact ⟨_, _, rfl, rfl, rfl, h⟩
  | succ n ih =>
    obtain ⟨⟨result, x', l⟩, ⟨_, y', l'⟩, hx, hy, rfl, hs⟩ := h.cycleSkipping
    cases result with
    | error fault =>
      refine ⟨⟨.error fault, x', log ++ l⟩, ⟨.error fault, y', log' ++ l'⟩, ?_, ?_, rfl, hs⟩
      · simp only [Machine.spend, hx]
      · simp only [Machine.spend, hy]
    | ok _ =>
      simp only [Machine.spend, hx, hy]
      exact ih hs (log ++ l) (log' ++ l')

end Twins
end Machine

namespace Host

variable {ρ ι δ β : Type}

/-- Hosts that are equal but for the dialect of their machines, which are twins. -/
structure Twins (shiftSource : ShiftSource) (x y : Host ρ ι δ β) : Prop where
  machines : Machine.Twins shiftSource x.machine y.machine
  others : y = x.inDialect (.ignoring shiftSource)

/-- Runs with the same result, for the same reason and after as many frames, which leave twins. -/
structure TwinRuns (shiftSource : ShiftSource) (r s : Run (Host ρ ι δ β)) : Prop where
  result : r.result = s.result
  ending : r.ending = s.ending
  played : r.played = s.played
  hosts : Twins shiftSource r.host s.host

/-! ### One frame -/

private theorem present_inDialect [Display δ] [Buzzer β] (h : Host ρ ι δ β) (d : Dialect)
    (log log' : Log) :
    (h.inDialect d).present log' =
      ⟨(h.present log).result, (h.present log).state.inDialect d, log'⟩ := by
  unfold present inDialect
  simp only [Machine.inDialect]
  split
  · rfl
  · split
    · rfl
    · rfl

private theorem machine_present [Display δ] [Buzzer β] (h : Host ρ ι δ β) (log : Log) :
    (h.present log).state.machine = h.machine := by
  unfold present
  split
  · rfl
  · split
    · rfl
    · rfl

namespace Twins

variable {shiftSource : ShiftSource} {x y : Host ρ ι δ β}

private theorem of_machines (h : Twins shiftSource x y) {m m' : Machine ρ}
    (hm : Machine.Twins shiftSource m m') :
    Twins shiftSource { x with machine := m } { y with machine := m' } := by
  obtain ⟨_, rfl⟩ := h
  refine ⟨hm, ?_⟩
  rw [hm.ignoring]
  rfl

private theorem present [Display δ] [Buzzer β] (h : Twins shiftSource x y) (log log' : Log) :
    (x.present log).result = (y.present log').result ∧
      Twins shiftSource (x.present log).state (y.present log').state := by
  have hm := h.machines
  obtain ⟨_, rfl⟩ := h
  rw [present_inDialect x (.ignoring shiftSource) log log']
  refine ⟨rfl, ?_, rfl⟩
  change Machine.Twins shiftSource (x.present log).state.machine
    ((x.present log).state.machine.inDialect (.ignoring shiftSource))
  rw [machine_present]
  exact hm

private theorem finish [Buzzer β] {r s : Sequence (Host ρ ι δ β)} (he : r.ending = s.ending)
    (hp : r.played = s.played) (h : Twins shiftSource r.host s.host) :
    TwinRuns shiftSource (Host.finish r) (Host.finish s) := by
  have hb : s.host.buzzer = r.host.buzzer := by
    rw [h.others]
    rfl
  refine ⟨?_, he, hp, ⟨h.machines, ?_⟩⟩
  · simp only [Host.finish, he, hb]
  · simp only [Host.finish, hb]
    rw [h.others]
    rfl

variable [RandomSource ρ] [Input ι] [Display δ] [Buzzer β]

omit [Input ι] in
private theorem play (h : Twins shiftSource x y) (keypad : Keypad) (log : Log) :
    Alike (Twins shiftSource) (x.play keypad log) (y.play keypad log) := by
  have hk := h.machines.setKeys keypad
  have hc : y.cyclesPerFrame = x.cyclesPerFrame := by
    rw [h.others]
    rfl
  obtain ⟨⟨result, m, l⟩, ⟨_, m', l'⟩, hx, hy, rfl, hm⟩ := hk.spend x.cyclesPerFrame log log
  rw [← hc] at hy
  cases result with
  | error fault =>
    refine ⟨⟨.error (.fault fault), { x with machine := m }, l⟩,
      ⟨.error (.fault fault), { y with machine := m' }, l'⟩, ?_, ?_, rfl, h.of_machines hm⟩
    · simp only [Host.play, hx]
    · simp only [Host.play, hy]
  | ok _ =>
    refine ⟨_, _, ?_, ?_, (h.of_machines hm.tick).present l l'⟩
    · simp only [Host.play, hx]
    · simp only [Host.play, hy]

/-- A frame does the same to twins. -/
theorem frame (h : Twins shiftSource x y) : Alike (Twins shiftSource) x.frame y.frame := by
  have hi : Twins shiftSource { x with input := (Input.scan x.input).input }
      { y with input := (Input.scan y.input).input } := by
    obtain ⟨hm, rfl⟩ := h
    exact ⟨hm, rfl⟩
  have hy : y.input = x.input := by
    rw [h.others]
    rfl
  rw [hy] at hi
  unfold Host.frame
  rw [hy]
  simp only
  split
  · exact ⟨_, _, rfl, rfl, rfl, hi⟩
  · exact ⟨_, _, rfl, rfl, rfl, hi⟩
  next keypad _ => exact hi.play keypad _

/-! ### Many frames -/

/-- Any number of frames gives twins the same results and leaves them twins. -/
theorem reel (h : Twins shiftSource x y) (n : Nat) :
    ∃ r s : Reel (Host ρ ι δ β), Host.reel n x = .ok r ∧ Host.reel n y = .ok s ∧
      r.results = s.results ∧ Twins shiftSource r.host s.host := by
  induction n generalizing x y with
  | zero => exact ⟨_, _, rfl, rfl, rfl, h⟩
  | succ n ih =>
    obtain ⟨o, p, hx, hy, hr, hs⟩ := h.frame
    obtain ⟨r, s, hx', hy', hr', hs'⟩ := ih hs
    refine ⟨⟨o.result :: r.results, r.host, o.log ++ r.log⟩,
      ⟨p.result :: s.results, s.host, p.log ++ s.log⟩, ?_, ?_, ?_, hs'⟩
    · simp only [Host.reel, hx, hx']
    · simp only [Host.reel, hy, hy']
    · rw [hr, hr']

/-- Frames of twins end in the same way, after as many of them. -/
theorem frames (h : Twins shiftSource x y) (n played : Nat) (log log' : Log) :
    ∃ r s : Sequence (Host ρ ι δ β),
      Host.frames n x played log = .ok r ∧ Host.frames n y played log' = .ok s ∧
      r.ending = s.ending ∧ r.played = s.played ∧ Twins shiftSource r.host s.host := by
  induction n generalizing x y played log log' with
  | zero => exact ⟨_, _, rfl, rfl, rfl, rfl, h⟩
  | succ n ih =>
    obtain ⟨⟨result, x', l⟩, ⟨_, y', l'⟩, hx, hy, rfl, hs⟩ := h.frame
    cases result with
    | error e =>
      refine ⟨⟨.failed e, played, x', log ++ l⟩, ⟨.failed e, played, y', log' ++ l'⟩, ?_, ?_,
        rfl, rfl, hs⟩
      · simp only [Host.frames, hx]
      · simp only [Host.frames, hy]
    | ok ended =>
      cases ended with
      | quit =>
        refine ⟨⟨.quit, played, x', (log ++ l).push (.quit played)⟩,
          ⟨.quit, played, y', (log' ++ l').push (.quit played)⟩, ?_, ?_, rfl, rfl, hs⟩
        · simp only [Host.frames, hx]
        · simp only [Host.frames, hy]
      | played =>
        simp only [Host.frames, hx, hy]
        exact ih hs (played + 1) (log ++ l) (log' ++ l')

end Twins

variable [RandomSource ρ] [Input ι] [Display δ] [Buzzer β]

/-- Twins give the same results and stay twins, in any number of frames and in every run. A call
into machine code costs both one cycle, after which both are past it and otherwise as before. -/
theorem sysCalls_invisible {shiftSource : ShiftSource} {x y : Host ρ ι δ β}
    (h : Twins shiftSource x y) :
    (∀ n, ∃ r s : Reel (Host ρ ι δ β), Host.reel n x = .ok r ∧ Host.reel n y = .ok s ∧
      r.results = s.results ∧ Twins shiftSource r.host s.host) ∧
    (∀ limit fuel, ∃ r s : Run (Host ρ ι δ β),
      x.run (some limit) fuel = .ok (some r) ∧ y.run (some limit) fuel = .ok (some s) ∧
      TwinRuns shiftSource r s) ∧
    (∀ fuel, (x.run none fuel = .ok none ∧ y.run none fuel = .ok none) ∨
      ∃ r s : Run (Host ρ ι δ β),
        x.run none fuel = .ok (some r) ∧ y.run none fuel = .ok (some s) ∧
        TwinRuns shiftSource r s) ∧
    (∀ word addr, x.machine.phase = .running →
      x.machine.memory.readWord x.machine.registers.pc = .ok word →
      Instruction.decode word = .ok (.sys addr) →
      ∃ o p : Outcome Fault Unit (Machine ρ),
        x.machine.cycle = .ok o ∧ o.result = .error (.unknownOpcode addr) ∧
        o.state.resume.result = .ok () ∧ o.state.resume.state = x.machine.past ∧
        y.machine.cycle = .ok p ∧ p.result = .ok () ∧ p.state = y.machine.past) := by
  refine ⟨h.reel, ?_, ?_, fun word addr hp hr hi ↦ h.machines.sysCall hp hr hi⟩
  · intro limit fuel
    obtain ⟨r, s, hx, hy, he, hn, hs⟩ := h.frames limit 0 #[] #[]
    refine ⟨finish r, finish s, ?_, ?_, Twins.finish he hn hs⟩
    · simp only [run, runFor, hx]
      rfl
    · simp only [run, runFor, hy]
      rfl
  · intro fuel
    obtain ⟨r, s, hx, hy, he, hn, hs⟩ := h.frames fuel 0 #[] #[]
    simp only [run, runOn, hx, hy, ← he]
    cases r.ending with
    | limit => exact .inl ⟨rfl, rfl⟩
    | quit | failed _ => exact .inr ⟨_, _, rfl, rfl, Twins.finish he hn hs⟩

/-- A host whose machine calls the code at `123` and jumps back to the call, with an uneven number
of cycles in a frame. -/
def atSysCall : Host Cyclic SteadyInput CountingDisplay SilentBuzzer where
  machine :=
    { Machine.powerOn (Cyclic.ofList [0xA5]) .standard with
      memory := Memory.powerOn.put 0x200 [0x01, 0x23, 0x12, 0x00] }
  input := ⟨.released⟩
  display := ⟨0, none⟩
  buzzer := .quiet
  cyclesPerFrame := 11

/-- Three frames of a loop that calls machine code without end. -/
theorem sysCalls_invisible_loop :
    Twins .vx atSysCall (atSysCall.inDialect (.ignoring .vx)) ∧
      ∃ r s : Run (Host Cyclic SteadyInput CountingDisplay SilentBuzzer),
        atSysCall.run (some 3) 0 = .ok (some r) ∧
        (atSysCall.inDialect (.ignoring .vx)).run (some 3) 0 = .ok (some s) ∧
        TwinRuns .vx r s := by
  have hw : atSysCall.machine.WaitsInRange := by
    intro x hx
    cases hx
  have h : Twins .vx atSysCall (atSysCall.inDialect (.ignoring .vx)) := ⟨⟨rfl, rfl, hw⟩, rfl⟩
  exact ⟨h, (sysCalls_invisible h).2.1 3 0⟩

end Host
end Chip8
