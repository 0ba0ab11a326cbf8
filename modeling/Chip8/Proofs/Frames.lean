import Chip8.Host.Run
import Chip8.Proofs.Commands
import Chip8.Proofs.Skipping

/-!
# Frames, action by action

All that one frame can do, case by case, with the actions that it takes: what a host does to its
machine and its devices, in the order in which it does it. Every frame of a host has a case, so
that it always has an outcome.
-/

namespace Chip8

/-- One thing that a host does to its machine or to a device. -/
inductive Action where
  /-- Look at the keys. -/
  | scan
  /-- Set the machine's keys. -/
  | setKeys (keypad : Keypad)
  /-- Ask the machine for a cycle. -/
  | cycle
  /-- Let the machine run on past an unknown opcode. -/
  | resume
  /-- Count the machine's timers down. -/
  | tick
  /-- Show the machine's picture. -/
  | draw
  /-- Make the buzzer follow a flag. -/
  | sync (active : Bool)
  deriving DecidableEq

namespace Host

variable {ρ ι δ β : Type}

/-- The host after it has looked at the keys. -/
def scanned [Input ι] (h : Host ρ ι δ β) : Host ρ ι δ β :=
  { h with input := (Input.scan h.input).input }

variable [RandomSource ρ] [Input ι] [Display δ] [Buzzer β]

/-- What an action makes of a host, whether or not it fails. -/
def act (h : Host ρ ι δ β) : Action → Except Misuse (Host ρ ι δ β)
  | .scan => .ok h.scanned
  | .setKeys keypad => .ok { h with machine := h.machine.setKeys keypad }
  | .cycle =>
    match h.machine.cycle with
    | .error u => .error u
    | .ok o => .ok { h with machine := o.state }
  | .resume => .ok { h with machine := h.machine.resume.state }
  | .tick => .ok { h with machine := h.machine.tick }
  | .draw => .ok { h with display := (Display.draw h.display h.machine.screen).2 }
  | .sync active => .ok { h with buzzer := (Buzzer.sync h.buzzer active).2 }

/-- What actions make of a host, one after the other. -/
def perform (h : Host ρ ι δ β) : List Action → Except Misuse (Host ρ ι δ β)
  | [] => .ok h
  | a :: actions =>
    match h.act a with
    | .error u => .error u
    | .ok h' => h'.perform actions

/-- Actions can be taken in two parts. -/
theorem perform_append {h h' : Host ρ ι δ β} {front : List Action}
    (hf : h.perform front = .ok h') (back : List Action) :
    h.perform (front ++ back) = h'.perform back := by
  induction front generalizing h with
  | nil =>
    cases hf
    rfl
  | cons a front ih =>
    cases ha : h.act a with
    | error u =>
      simp only [perform, ha] at hf
      cases hf
    | ok g =>
      simp only [perform, ha] at hf
      simp only [List.cons_append, perform, ha]
      exact ih hf

/-- An action leaves no wait for a register that does not exist. -/
theorem waits_act {h h' : Host ρ ι δ β} {a : Action} (hw : h.machine.WaitsInRange)
    (ha : h.act a = .ok h') : h'.machine.WaitsInRange := by
  cases a with
  | cycle =>
    obtain ⟨o, ho⟩ := Machine.exists_cycles h.machine
    simp only [act, Machine.cycle_of_cycles hw ho] at ha
    cases ha
    exact hw.cycles ho
  | resume =>
    obtain ⟨o, ho⟩ := Machine.exists_obeys h.machine .resume
    have hr := Machine.obey_of_obeys hw ho
    cases ha
    cases hr
    exact hw.obeys ho
  | scan | setKeys _ | tick | draw | sync _ =>
    cases ha
    exact hw

end Host

/-! ### The machine's part -/

namespace Machine

variable {ρ : Type} [RandomSource ρ]

/-- What a machine does in so many cycles under a host, and the actions that this takes. -/
inductive Spends : Nat → Machine ρ → List Action → Outcome Fault Unit (Machine ρ) → Prop where
  /-- No cycle is left. -/
  | done {m : Machine ρ} : Spends 0 m [] ⟨.ok (), m, #[]⟩
  /-- A cycle without a fault. -/
  | cycled {n : Nat} {m : Machine ρ} {o p : Outcome Fault Unit (Machine ρ)}
    {actions : List Action} (cycles : m.Cycles o) (result : o.result = .ok ())
    (rest : Spends n o.state actions p) :
    Spends (n + 1) m (.cycle :: actions) ⟨p.result, p.state, o.log ++ p.log⟩
  /-- A cycle that meets an unknown opcode, which is passed over. -/
  | skipped {n : Nat} {m : Machine ρ} {o p : Outcome Fault Unit (Machine ρ)}
    {actions : List Action} {word : UInt16} (cycles : m.Cycles o)
    (result : o.result = .error (.unknownOpcode word))
    (rest : Spends n { o.state with phase := .running } actions p) :
    Spends (n + 1) m (.cycle :: .resume :: actions)
      ⟨p.result, p.state, o.log.push (.skipped word) ++ #[.resumed word] ++ p.log⟩
  /-- A cycle with any other fault, which is the last. -/
  | faulted {n : Nat} {m : Machine ρ} {o : Outcome Fault Unit (Machine ρ)} {f : Fault}
    (cycles : m.Cycles o) (result : o.result = .error f)
    (known : ∀ word, f ≠ .unknownOpcode word) :
    Spends (n + 1) m [.cycle] o

/-- Every machine has a case of `Spends` for any number of cycles. -/
theorem exists_spends (n : Nat) (m : Machine ρ) : ∃ actions o, Spends n m actions o := by
  induction n generalizing m with
  | zero => exact ⟨_, _, .done⟩
  | succ n ih =>
    obtain ⟨o, ho⟩ := exists_cycles m
    cases hr : o.result with
    | ok _ =>
      obtain ⟨actions, p, hp⟩ := ih o.state
      exact ⟨_, _, .cycled ho hr hp⟩
    | error f =>
      by_cases hw : ∃ word, f = .unknownOpcode word
      · obtain ⟨word, rfl⟩ := hw
        obtain ⟨actions, p, hp⟩ := ih { o.state with phase := .running }
        exact ⟨_, _, .skipped ho hr hp⟩
      · exact ⟨_, _, .faulted ho hr fun word h ↦ hw ⟨word, h⟩⟩

/-- The case of `Spends` that a machine has is how it spends its cycles. -/
theorem spend_of_spends {n : Nat} {m : Machine ρ} (hw : m.WaitsInRange) {actions : List Action}
    {o : Outcome Fault Unit (Machine ρ)} (h : Spends n m actions o) (log : Log) :
    spend n m log = .ok ⟨o.result, o.state, log ++ o.log⟩ := by
  -- What the first cycle notes is part of the log that the others begin with.
  induction h generalizing log with
  | done => rfl
  | @cycled _ _ o p _ hc hr _ ih =>
    have hs := cycleSkipping_of_cycles hw hc
    simp only [overlook, hr] at hs
    simp only [spend, hs, hr]
    rw [ih (hw.cycles hc), Array.append_assoc]
  | @skipped _ _ o p _ word hc hr _ ih =>
    have hs := cycleSkipping_of_cycles hw hc
    simp only [overlook, hr, resume_of_unknownOpcode (hc.halted hr)] at hs
    simp only [spend, hs]
    rw [ih (waitsInRange_of_running rfl), Array.append_assoc]
  | @faulted _ _ o f hc hr hn =>
    have hs := cycleSkipping_of_cycles hw hc
    have ho : overlook o = o := by
      unfold overlook
      split
      · next word hr' =>
        rw [hr] at hr'
        cases hr'
        exact absurd rfl (hn word)
      · rfl
    rw [ho] at hs
    simp only [spend, hs, hr]

namespace Spends

variable {n : Nat} {m : Machine ρ} {actions : List Action} {o : Outcome Fault Unit (Machine ρ)}

/-- Spending cycles leaves no wait for a register that does not exist. -/
theorem waits (h : Spends n m actions o) (hw : m.WaitsInRange) : o.state.WaitsInRange := by
  induction h with
  | done => exact hw
  | cycled hc _ _ ih => exact ih (hw.cycles hc)
  | @skipped _ _ o _ _ _ _ _ _ ih => exact ih (waitsInRange_of_running rfl)
  | faulted hc _ _ => exact hw.cycles hc

/-- No cycle changes the keys. -/
theorem keypad (h : Spends n m actions o) : o.state.keypad = m.keypad := by
  induction h with
  | done => rfl
  | cycled hc _ _ ih => rw [ih, hc.keypad]
  | skipped hc _ _ ih => exact ih.trans hc.keypad
  | faulted hc _ _ => exact hc.keypad

/-- While a machine spends cycles its host only asks for cycles and resumptions. -/
theorem only (h : Spends n m actions o) : ∀ a ∈ actions, a = .cycle ∨ a = .resume := by
  induction h with
  | done => simp
  | cycled _ _ _ ih => simpa using ih
  | skipped _ _ _ ih => simpa using ih
  | faulted _ _ _ => simp

/-- Without a fault, spending cycles spends all of them. -/
theorem count_cycle (h : Spends n m actions o) (hr : o.result = .ok ()) :
    actions.count .cycle = n := by
  induction h with
  | done => rfl
  | cycled _ _ _ ih => simpa using ih hr
  | skipped _ _ _ ih => simpa using ih hr
  | faulted _ hr' _ =>
    rw [hr] at hr'
    cases hr'

/-- A fault in spending cycles is not that of an unknown opcode, and the machine has halted at it.
-/
theorem halted (h : Spends n m actions o) {f : Fault} (hr : o.result = .error f) :
    o.state.phase = .halted f ∧ ∀ word, f ≠ .unknownOpcode word := by
  induction h with
  | done => cases hr
  | cycled _ _ _ ih => exact ih hr
  | skipped _ _ _ ih => exact ih hr
  | faulted hc hr' hn =>
    rw [hr] at hr'
    cases hr'
    exact ⟨hc.halted hr, hn⟩

/-- A machine that has spent cycles without a fault has not halted: it had not before, or the first
cycle would have shown it. -/
theorem awake (h : Spends n m actions o) (hn : 0 < n ∨ ∀ f, m.phase ≠ .halted f)
    (hr : o.result = .ok ()) (f : Fault) : o.state.phase ≠ .halted f := by
  induction h with
  | done =>
    rcases hn with hn | hn
    · cases hn
    · exact hn f
  | cycled hc hr' _ ih => exact ih (.inr (hc.awake hr')) hr
  | skipped _ _ _ ih => exact ih (.inr (by simp)) hr
  | faulted _ hr' _ =>
    rw [hr] at hr'
    cases hr'

/-- The actions of spending cycles make the machine what it is in the end, and touch nothing else of
the host. -/
theorem perform {ι δ β : Type} [Input ι] [Display δ] [Buzzer β] (h : Spends n m actions o)
    (hw : m.WaitsInRange) (x : Host ρ ι δ β) (hm : x.machine = m) :
    x.perform actions = .ok { x with machine := o.state } := by
  -- Each cycle gives a new host, with the devices of the one before.
  induction h generalizing x with
  | done =>
    subst hm
    rfl
  | cycled hc hr _ ih =>
    subst hm
    simp only [Host.perform, Host.act, cycle_of_cycles hw hc]
    exact ih (hw.cycles hc) _ rfl
  | @skipped _ _ o _ _ _ hc hr _ ih =>
    subst hm
    simp only [Host.perform, Host.act, cycle_of_cycles hw hc,
      resume_of_unknownOpcode (hc.halted hr)]
    exact ih (waitsInRange_of_running rfl) _ rfl
  | faulted hc _ _ =>
    subst hm
    simp only [Host.perform, Host.act, cycle_of_cycles hw hc]

end Spends
end Machine

/-! ### The whole frame -/

namespace Host

variable {ρ ι δ β : Type} [RandomSource ρ] [Input ι] [Display δ] [Buzzer β]

/-- A scan has given keys, with which the machine spends the cycles of a frame. -/
structure Works (h : Host ρ ι δ β) (keypad : Keypad) (spent : List Action)
    (o : Outcome Fault Unit (Machine ρ)) : Prop where
  keys : (Input.scan h.input).answer = .ok (some keypad)
  spends : (h.machine.setKeys keypad).Spends h.cyclesPerFrame spent o

/-- What a frame does, and the actions that this takes. -/
inductive Frames (h : Host ρ ι δ β) :
    List Action → Outcome HostError FrameEnd (Host ρ ι δ β) → Prop where
  /-- The scan fails. -/
  | unscanned {text : String} (failure : (Input.scan h.input).answer = .error text) :
    Frames h [.scan] ⟨.error (.io text), h.scanned, (Input.scan h.input).log⟩
  /-- The user wants out. -/
  | quit (leave : (Input.scan h.input).answer = .ok none) :
    Frames h [.scan] ⟨.ok .quit, h.scanned, (Input.scan h.input).log⟩
  /-- The machine faults. -/
  | faulted {keypad : Keypad} {spent : List Action} {o : Outcome Fault Unit (Machine ρ)}
    {f : Fault} (works : h.Works keypad spent o) (result : o.result = .error f) :
    Frames h (.scan :: .setKeys keypad :: spent)
      ⟨.error (.fault f), { h.scanned with machine := o.state },
        (Input.scan h.input).log ++ o.log⟩
  /-- The picture cannot be shown. -/
  | undrawn {keypad : Keypad} {spent : List Action} {o : Outcome Fault Unit (Machine ρ)}
    {text : String} {display : δ} (works : h.Works keypad spent o) (result : o.result = .ok ())
    (draw : Display.draw h.display o.state.tick.screen = (.error text, display)) :
    Frames h (.scan :: .setKeys keypad :: spent ++ [.tick, .draw])
      ⟨.error (.io text), { h.scanned with machine := o.state.tick, display },
        (Input.scan h.input).log ++ o.log⟩
  /-- The buzzer fails. -/
  | unheard {keypad : Keypad} {spent : List Action} {o : Outcome Fault Unit (Machine ρ)}
    {text : String} {display : δ} {buzzer : β} (works : h.Works keypad spent o)
    (result : o.result = .ok ())
    (draw : Display.draw h.display o.state.tick.screen = (.ok (), display))
    (sync : Buzzer.sync h.buzzer o.state.tick.timers.soundActive = (.error text, buzzer)) :
    Frames h (.scan :: .setKeys keypad :: spent ++
        [.tick, .draw, .sync o.state.tick.timers.soundActive])
      ⟨.error (.buzzer text), { h.scanned with machine := o.state.tick, display, buzzer },
        (Input.scan h.input).log ++ o.log⟩
  /-- The frame is played to its end. -/
  | played {keypad : Keypad} {spent : List Action} {o : Outcome Fault Unit (Machine ρ)}
    {display : δ} {buzzer : β} (works : h.Works keypad spent o) (result : o.result = .ok ())
    (draw : Display.draw h.display o.state.tick.screen = (.ok (), display))
    (sync : Buzzer.sync h.buzzer o.state.tick.timers.soundActive = (.ok (), buzzer)) :
    Frames h (.scan :: .setKeys keypad :: spent ++
        [.tick, .draw, .sync o.state.tick.timers.soundActive])
      ⟨.ok .played, { h.scanned with machine := o.state.tick, display, buzzer },
        (Input.scan h.input).log ++ o.log⟩

/-- Every host has a case of `Frames`. -/
theorem exists_frames (h : Host ρ ι δ β) : ∃ actions o, h.Frames actions o := by
  cases hs : (Input.scan h.input).answer with
  | error text => exact ⟨_, _, .unscanned hs⟩
  | ok keys =>
    cases keys with
    | none => exact ⟨_, _, .quit hs⟩
    | some keypad =>
      obtain ⟨spent, o, ho⟩ := Machine.exists_spends h.cyclesPerFrame (h.machine.setKeys keypad)
      have hw : h.Works keypad spent o := ⟨hs, ho⟩
      cases hr : o.result with
      | error f => exact ⟨_, _, .faulted hw hr⟩
      | ok _ =>
        rcases hd : Display.draw h.display o.state.tick.screen with ⟨_ | _, display⟩
        · exact ⟨_, _, .undrawn hw hr hd⟩
        · rcases hb : Buzzer.sync h.buzzer o.state.tick.timers.soundActive with
            ⟨_ | _, buzzer⟩
          · exact ⟨_, _, .unheard hw hr hd hb⟩
          · exact ⟨_, _, .played hw hr hd hb⟩

private theorem Works.frame {h : Host ρ ι δ β} (hw : h.machine.WaitsInRange) {keypad : Keypad}
    {spent : List Action} {o : Outcome Fault Unit (Machine ρ)} (hs : h.Works keypad spent o) :
    h.frame =
      match o.result with
      | .error f =>
        .ok ⟨.error (.fault f), { h.scanned with machine := o.state },
          (Input.scan h.input).log ++ o.log⟩
      | .ok () =>
        .ok ({ h.scanned with machine := o.state.tick }.present
          ((Input.scan h.input).log ++ o.log)) := by
  have hsp : Machine.spend h.cyclesPerFrame (h.machine.setKeys keypad) (Input.scan h.input).log =
      .ok ⟨o.result, o.state, (Input.scan h.input).log ++ o.log⟩ :=
    Machine.spend_of_spends (m := h.machine.setKeys keypad) hw hs.spends _
  simp only [Host.frame, hs.keys, play, hsp]
  cases o.result with
  | error f => rfl
  | ok _ => rfl

/-- The case of `Frames` that a host has is what its frame does. -/
theorem frame_of_frames {h : Host ρ ι δ β} (hw : h.machine.WaitsInRange) {actions : List Action}
    {o : Outcome HostError FrameEnd (Host ρ ι δ β)} (hf : h.Frames actions o) :
    h.frame = .ok o := by
  cases hf with
  | unscanned hs | quit hs =>
    simp only [frame, hs]
    rfl
  | faulted hk hr => rw [hk.frame hw, hr]
  | undrawn hk hr hd =>
    rw [hk.frame hw, hr]
    simp only [present, scanned, hd]
  | unheard hk hr hd hb =>
    rw [hk.frame hw, hr]
    simp only [present, scanned, hd, hb]
  | played hk hr hd hb =>
    rw [hk.frame hw, hr]
    simp only [present, scanned, hd, hb]

private theorem Works.perform {h : Host ρ ι δ β} (hw : h.machine.WaitsInRange) {keypad : Keypad}
    {spent : List Action} {o : Outcome Fault Unit (Machine ρ)} (hs : h.Works keypad spent o) :
    h.perform (.scan :: .setKeys keypad :: spent) =
      .ok { h.scanned with machine := o.state } := by
  simp only [Host.perform, act]
  exact hs.spends.perform hw _ rfl

namespace Frames

variable {h : Host ρ ι δ β} {actions : List Action}
  {o : Outcome HostError FrameEnd (Host ρ ι δ β)}

/-- The actions of a frame make the host what it is after the frame. -/
theorem perform (hf : h.Frames actions o) (hw : h.machine.WaitsInRange) :
    h.perform actions = .ok o.state := by
  cases hf with
  | unscanned _ | quit _ => rfl
  | faulted hk _ => exact hk.perform hw
  | undrawn hk _ hd =>
    rw [perform_append (hk.perform hw)]
    simp only [Host.perform, act, scanned, hd]
  | unheard hk _ hd hb | played hk _ hd hb =>
    rw [perform_append (hk.perform hw)]
    simp only [Host.perform, act, scanned, hd, hb]

/-- A frame leaves no wait for a register that does not exist. -/
theorem waits (hf : h.Frames actions o) (hw : h.machine.WaitsInRange) :
    o.state.machine.WaitsInRange := by
  cases hf with
  | unscanned _ | quit _ => exact hw
  | faulted hk _ | undrawn hk _ _ | unheard hk _ _ _ | played hk _ _ _ =>
    exact hk.spends.waits hw

/-- The input after a frame has been scanned once. -/
theorem input (hf : h.Frames actions o) : o.state.input = (Input.scan h.input).input := by
  cases hf <;> rfl

end Frames
end Host
end Chip8
