import Chip8.Device.Rehearsal
import Chip8.Proofs.Runs

/-!
# The books of a run

The actions of a run are counted: how often it looks at the keys, ticks the timers and shows the
picture follows from the number of frames played and the way it ended. The delay timer can be read
off the ticks.
-/

namespace Chip8

namespace Input

variable {ι : Type} [Input ι]

/-- What so many scans note. -/
def notes (input : ι) : Nat → Log
  | 0 => #[]
  | k + 1 => (scan input).log ++ notes (scan input).input k

/-- The last scan adds its notes at the end. -/
theorem notes_succ (input : ι) (k : Nat) :
    notes input (k + 1) = notes input k ++ (scan (after input k)).log := by
  induction k generalizing input with
  | zero => simp [notes, after]
  | succ k ih => rw [notes, ih, notes, after, Array.append_assoc]

end Input

/-! ### Cycles -/

namespace Machine

variable {ρ : Type}

/-- Only a machine code call adds to the events of its execution. -/
theorem count_quit_executionLog (m : Machine ρ) (i : Instruction) (k : Nat) :
    (m.executionLog i).count (.quit k) = 0 := by
  unfold executionLog
  split
  · split
    · rfl
    · rfl
  · rfl

/-- Running on does not touch the timers. -/
theorem timers_resume (m : Machine ρ) : m.resume.state.timers = m.timers := by
  unfold resume
  split <;> rfl

/-- Of all instructions, one sets the delay timer. -/
theorem delay_timersAfter (m : Machine ρ) {i : Instruction} (h : ∀ x, i ≠ .setDelay x) :
    (m.timersAfter i).delay = m.timers.delay := by
  cases i with
  | setDelay x => exact absurd rfl (h x)
  | _ => rfl

/-- The next cycle carries out an instruction that sets the delay timer. -/
def SetsDelay (m : Machine ρ) : Prop :=
  m.phase = .running ∧ ∃ word x, m.memory.readWord m.registers.pc = .ok word ∧
    Instruction.decode word = .ok (.setDelay x)

variable [RandomSource ρ]

/-- No cycle announces the end of a run. -/
theorem Cycles.count_quit {m : Machine ρ} {o : Outcome Fault Unit (Machine ρ)} (h : m.Cycles o)
    (k : Nat) : o.log.count (.quit k) = 0 := by
  cases h with
  | carriedOut _ _ _ _ =>
    rw [Array.count_append, count_quit_executionLog]
    rfl
  | _ => rfl

/-- A cycle that does not set the delay timer leaves it alone. -/
theorem Cycles.delay {m : Machine ρ} {o : Outcome Fault Unit (Machine ρ)} (h : m.Cycles o)
    (hs : ¬ m.SetsDelay) : o.state.timers.delay = m.timers.delay := by
  cases h with
  | @carriedOut word i hp hf hi _ =>
    have hn : ∀ x, i ≠ .setDelay x := by
      rintro x rfl
      exact hs ⟨hp, word, x, hf, hi⟩
    exact delay_timersAfter m.past hn
  | _ => rfl

namespace Spends

variable {n : Nat} {m : Machine ρ} {actions : List Action} {o : Outcome Fault Unit (Machine ρ)}

/-- Spending cycles does not announce the end of a run. -/
theorem count_quit (h : Spends n m actions o) (k : Nat) : o.log.count (.quit k) = 0 := by
  induction h with
  | done => rfl
  | cycled hc _ _ ih => rw [Array.count_append, hc.count_quit, ih]
  | skipped hc _ _ ih =>
    rw [Array.count_append, Array.count_append, Array.count_push, hc.count_quit, ih]
    rfl
  | faulted hc _ _ => exact hc.count_quit k

/-- Cycles are neither scans, nor ticks, nor draws. -/
theorem count_other (h : Spends n m actions o) {a : Action} (hc : a ≠ .cycle)
    (hr : a ≠ .resume) : actions.count a = 0 := by
  apply List.count_eq_zero_of_not_mem
  intro ha
  rcases h.only a ha with ha | ha
  · exact hc ha
  · exact hr ha

end Spends
end Machine

namespace Host

variable {ρ ι δ β : Type} [RandomSource ρ] [Input ι] [Display δ] [Buzzer β]

/-! ### Actions -/

/-- No cycle among some actions carries out an instruction that sets the delay timer. -/
def LeavesDelay (h : Host ρ ι δ β) (actions : List Action) : Prop :=
  ∀ front back reached, actions = front ++ .cycle :: back → h.perform front = .ok reached →
    ¬ reached.machine.SetsDelay

/-- Of all actions, a tick counts the delay timer down, and only a cycle may set it. -/
theorem delay_act {h h' : Host ρ ι δ β} {a : Action} (hw : h.machine.WaitsInRange)
    (ha : h.act a = .ok h') (hs : a = .cycle → ¬ h.machine.SetsDelay) :
    h'.machine.timers.delay.toNat = h.machine.timers.delay.toNat - [a].count .tick := by
  cases a with
  | cycle =>
    obtain ⟨o, ho⟩ := Machine.exists_cycles h.machine
    simp only [act, Machine.cycle_of_cycles hw ho] at ha
    cases ha
    exact congrArg UInt8.toNat (ho.delay (hs rfl))
  | tick =>
    cases ha
    exact Timers.toNat_countDown h.machine.timers.delay
  | resume =>
    cases ha
    rw [Machine.timers_resume]
    rfl
  | scan | setKeys _ | draw | sync _ =>
    cases ha
    rfl

/-- Actions without a cycle that sets the delay timer count it down, once a tick. -/
theorem delay_perform {h h' : Host ρ ι δ β} {actions : List Action}
    (hw : h.machine.WaitsInRange) (hp : h.perform actions = .ok h')
    (hl : h.LeavesDelay actions) :
    h'.machine.timers.delay.toNat =
      h.machine.timers.delay.toNat - actions.count .tick := by
  induction actions generalizing h with
  | nil =>
    cases hp
    rfl
  | cons a actions ih =>
    cases ha : h.act a with
    | error u =>
      simp only [perform, ha] at hp
      cases hp
    | ok g =>
      simp only [perform, ha] at hp
      -- The first action has nothing before it, and the others have it before them.
      have hfirst : a = .cycle → ¬ h.machine.SetsDelay := by
        rintro rfl
        exact hl [] actions h rfl rfl
      have hlater : g.LeavesDelay actions := by
        intro front back reached he hr
        apply hl (a :: front) back reached
        · rw [he, List.cons_append]
        · simp only [perform, ha, hr]
      rw [ih (waits_act hw ha) hp hlater, delay_act hw ha hfirst, Nat.sub_sub,
        ← List.count_append, List.singleton_append]

/-! ### Frames -/

/-- How often a frame shows the picture, told by its end. An input or output error is one of the
scan if the scan failed, and else one of the display. -/
def draws (h : Host ρ ι δ β) : Except HostError FrameEnd → Nat
  | .ok .played | .error (.buzzer _) => 1
  | .ok .quit | .error (.fault _) => 0
  | .error (.io _) =>
    match (Input.scan h.input).answer with
    | .error _ => 0
    | .ok _ => 1

namespace Frames

variable {h : Host ρ ι δ β} {actions : List Action}
  {o : Outcome HostError FrameEnd (Host ρ ι δ β)}

/-- A frame looks at the keys once. -/
theorem count_scan (hf : h.Frames actions o) : actions.count .scan = 1 := by
  cases hf with
  | unscanned _ | quit _ => rfl
  | faulted hk _ | undrawn hk _ _ | unheard hk _ _ _ | played hk _ _ _ =>
    simp [hk.spends.count_other (a := .scan)]

/-- A frame ticks the timers as often as it shows the picture. -/
theorem count_shown (hf : h.Frames actions o) {a : Action} (ha : a = .tick ∨ a = .draw) :
    actions.count a = h.draws o.result := by
  rcases ha with rfl | rfl
  all_goals
    cases hf with
    | unscanned hs | quit hs => simp [draws, hs]
    | faulted hk _ | undrawn hk _ _ | unheard hk _ _ _ | played hk _ _ _ =>
      simp [hk.spends.count_other, draws, hk.keys]

/-- Only the scan of a frame can announce the end of a run. -/
theorem count_quit (hf : h.Frames actions o) (k : Nat) :
    o.log.count (.quit k) = (Input.scan h.input).log.count (.quit k) := by
  cases hf with
  | unscanned _ | quit _ => rfl
  | faulted hk _ | undrawn hk _ _ | unheard hk _ _ _ | played hk _ _ _ =>
    rw [Array.count_append, hk.spends.count_quit, Nat.add_zero]

end Frames

/-! ### Frames in a row -/

namespace Plays

variable {c : Nat} {h h' : Host ρ ι δ β} {actions : List Action} {log : Log}

/-- Frames that are played look at the keys once each. -/
theorem count_scan (hp : Plays c h actions log h') : actions.count .scan = c := by
  induction hp with
  | none => rfl
  | frame hf _ _ ih => rw [List.count_append, hf.count_scan, ih, Nat.add_comm]

/-- Frames that are played tick the timers and show the picture once each. -/
theorem count_shown (hp : Plays c h actions log h') {a : Action} (ha : a = .tick ∨ a = .draw) :
    actions.count a = c := by
  induction hp with
  | none => rfl
  | frame hf hr _ ih =>
    rw [List.count_append, hf.count_shown ha, hr, ih, Nat.add_comm]
    rfl

/-- Only the scans of frames that are played can announce the end of a run. -/
theorem count_quit (hp : Plays c h actions log h') (k : Nat) :
    log.count (.quit k) = (Input.notes h.input c).count (.quit k) := by
  induction hp with
  | none => rfl
  | frame hf _ _ ih =>
    rw [Array.count_append, hf.count_quit, ih, hf.input, Input.notes, Array.count_append]

end Plays

/-! ### Runs -/

/-- How often a run shows the picture, told by its end and by how many frames were played. An input
or output error is one of the last scan if that scan failed, and else one of the display. -/
def drawn (h : Host ρ ι δ β) (played : Nat) : Ending → Nat
  | .limit | .quit | .failed (.fault _) => played
  | .failed (.buzzer _) => played + 1
  | .failed (.io _) =>
    match (Input.scan (Input.after h.input played)).answer with
    | .error _ => played
    | .ok _ => played + 1

omit [RandomSource ρ] [Display δ] [Buzzer β] in
/-- A run that fails has shown a picture for each frame played, and what the failing frame has
shown. -/
theorem drawn_failed {h before : Host ρ ι δ β} {c : Nat}
    (hi : before.input = Input.after h.input c) (e : HostError) :
    h.drawn c (.failed e) = c + before.draws (.error e) := by
  cases e with
  | fault _ | buzzer _ => rfl
  | io _ =>
    rw [drawn, draws, hi]
    split <;> rfl

namespace Runs

variable {h : Host ρ ι δ β} {n : Nat} {actions : List Action} {s : Sequence (Host ρ ι δ β)}

/-- Every frame looks at the keys, also one that ends the sequence. -/
theorem count_scan (hr : h.Runs n actions s) :
    actions.count .scan = if s.ending = .limit then s.played else s.played + 1 := by
  cases hr with
  | limit hp => simp [hp.count_scan]
  | quit _ hp hf _ | failed _ hp hf _ => simp [hp.count_scan, hf.count_scan]

/-- The timers tick as often as the picture is shown. -/
theorem count_shown (hr : h.Runs n actions s) {a : Action} (ha : a = .tick ∨ a = .draw) :
    actions.count a = h.drawn s.played s.ending := by
  cases hr with
  | limit hp => exact hp.count_shown ha
  | quit _ hp hf hr =>
    rw [List.count_append, hp.count_shown ha, hf.count_shown ha, hr]
    rfl
  | failed _ hp hf hr =>
    rw [List.count_append, hp.count_shown ha, hf.count_shown ha, hr, drawn_failed hp.input]

/-- The end of a run is announced once if the user quits. -/
theorem count_quit (hr : h.Runs n actions s) (k : Nat) :
    s.log.count (.quit k) =
      (Input.notes h.input (actions.count .scan)).count (.quit k) +
        if s.ending = .quit ∧ s.played = k then 1 else 0 := by
  rw [hr.count_scan]
  cases hr with
  | limit hp => simp [hp.count_quit]
  | quit _ hp hf _ =>
    simp [Input.notes_succ, Array.count_push, hp.count_quit, hf.count_quit, hp.input,
      Nat.add_assoc]
  | failed _ hp hf _ =>
    simp [Input.notes_succ, hp.count_quit, hf.count_quit, hp.input]

end Runs

/-! ### The books -/

/-- The number of frames that were played, the way a run ended and the actions in it are in
balance. -/
structure Balanced (h : Host ρ ι δ β) (limit : Option Nat) (actions : List Action)
    (r : Run (Host ρ ι δ β)) : Prop where
  /-- As many frames are played as are allowed, unless something else ends the run. -/
  limited : ∀ n, limit = some n → r.played ≤ n ∧ (r.played = n ↔ r.ending = .limit)
  /-- Without a limit something else does. -/
  unlimited : limit = none → r.ending ≠ .limit
  /-- The frame that ends a run has looked at the keys too. -/
  scans : actions.count .scan = if r.ending = .limit then r.played else r.played + 1
  /-- The timers tick when a picture is about to be shown. -/
  ticks : actions.count .tick = h.drawn r.played r.ending
  /-- Pictures are shown in the frames played, and in one that fails at a device after that. -/
  draws : actions.count .draw = h.drawn r.played r.ending
  /-- Apart from what the input notes, only a quit is noted as one, once. -/
  quits : ∀ k, r.log.count (.quit k) =
    (Input.notes h.input (actions.count .scan)).count (.quit k) +
      if r.ending = .quit ∧ r.played = k then 1 else 0
  /-- The delay timer has been counted down, if nothing sets it. -/
  delay : h.LeavesDelay actions → r.host.machine.timers.delay.toNat =
    h.machine.timers.delay.toNat - actions.count .tick

/-- The run that a sequence makes is in balance. -/
theorem Runs.balanced {h : Host ρ ι δ β} {limit : Option Nat} {fuel : Nat}
    {actions : List Action} {s : Sequence (Host ρ ι δ β)}
    (hr : h.Runs (limit.getD fuel) actions s) (hw : h.machine.WaitsInRange)
    (he : limit = none → s.ending ≠ .limit) : h.Balanced limit actions (finish s) where
  limited := by
    rintro n rfl
    exact hr.played_le
  unlimited := he
  scans := hr.count_scan
  ticks := hr.count_shown (.inl rfl)
  draws := hr.count_shown (.inr rfl)
  quits := hr.count_quit
  delay := by
    intro hl
    have hd := delay_perform hw (hr.perform hw) hl
    exact hd

/-- Every run comes to an end if there is a limit, or if its input ends. Its frames and their
actions are then in balance, and the actions, with the buzzer switched off after them, make the
host what it is. -/
theorem run_accounts {h : Host ρ ι δ β} (hw : h.machine.WaitsInRange) (limit : Option Nat)
    (hq : limit = none → Input.Ends h.input) :
    ∃ enough actions s,
      (∀ fuel, enough ≤ fuel → h.Runs (limit.getD fuel) actions s ∧
        h.run limit fuel = .ok (some (finish s))) ∧
      h.perform (actions ++ [.sync false]) = .ok (finish s).host ∧
      h.Balanced limit actions (finish s) := by
  obtain ⟨enough, actions, s, he, hr⟩ := h.exists_enough limit hq
  have hs := hr enough (Nat.le_refl enough)
  refine ⟨enough, actions, s, fun fuel hf ↦ ⟨hr fuel hf, (hr fuel hf).run_eq hw he⟩, ?_, ?_⟩
  · rw [perform_append (hs.perform hw)]
    rfl
  · exact hs.balanced hw he

/-- A host whose machine jumps in place while the delay timer runs, and whose user quits at the
third scan. -/
def lingering : Host Cyclic ScriptedInput CountingDisplay SilentBuzzer where
  machine :=
    { Machine.powerOn (Cyclic.ofList [0xA5]) .standard with
      memory := Memory.powerOn.put 0x200 [0x12, 0x00]
      timers := ⟨9, 0⟩ }
  input := ⟨[.ok (some .released), .ok (some .released)]⟩
  display := ⟨0, none⟩
  buzzer := .quiet
  cyclesPerFrame := 11

/-- The run of the lingering host without a limit. -/
theorem run_accounts_lingering :
    lingering.machine.WaitsInRange ∧
      Input.Ends lingering.input ∧
      ∃ enough actions s,
        (∀ fuel, enough ≤ fuel → lingering.Runs fuel actions s ∧
          lingering.run none fuel = .ok (some (finish s))) ∧
        lingering.perform (actions ++ [.sync false]) = .ok (finish s).host ∧
        lingering.Balanced none actions (finish s) := by
  have hw : lingering.machine.WaitsInRange := by
    intro x hx
    cases hx
  have hq : Input.Ends lingering.input := by
    refine ⟨2, ?_⟩
    intro keypad hk
    cases hk
  exact ⟨hw, hq, run_accounts hw none fun _ ↦ hq⟩

end Host
end Chip8
