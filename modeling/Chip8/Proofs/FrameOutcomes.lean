import Chip8.Device.Rehearsal
import Chip8.Proofs.Frames

/-!
# What a frame returns

The answer of a frame says what has been done in it and how it has left the machine and the
devices: which actions were taken, whether the machine has halted, and which device failed.
-/

namespace Chip8

/-- Buzzers that every call which does not fail switches. -/
class SwitchedBuzzer (β : Type) [Buzzer β] : Prop where
  isBeeping_beep : ∀ {b b' : β}, Buzzer.beep b = (.ok (), b') → Buzzer.isBeeping b' = true
  isBeeping_stop : ∀ {b b' : β}, Buzzer.stop b = (.ok (), b') → Buzzer.isBeeping b' = false

instance : SwitchedBuzzer SilentBuzzer where
  isBeeping_beep := by
    intro b b' h
    by_cases hf : b.beepFails
    · simp only [Buzzer.beep, hf] at h
      cases h
    · simp only [Buzzer.beep, hf] at h
      cases h
      rfl
  isBeeping_stop := by
    intro b b' h
    by_cases hf : b.stopFails
    · simp only [Buzzer.stop, hf] at h
      cases h
    · simp only [Buzzer.stop, hf] at h
      cases h
      rfl

/-- A buzzer that could be made to follow a flag does. -/
theorem Buzzer.isBeeping_of_sync {β : Type} [Buzzer β] [SwitchedBuzzer β] {b b' : β}
    {active : Bool} (h : Buzzer.sync b active = (.ok (), b')) : isBeeping b' = active := by
  unfold sync at h
  split at h
  · exact SwitchedBuzzer.isBeeping_beep h
  · exact SwitchedBuzzer.isBeeping_stop h
  · next hb =>
    cases h
    exact hb
  · next hb =>
    cases h
    exact hb

namespace Host

variable {ρ ι δ β : Type}

/-- The machine's work in a frame has been done: so many cycles with the keys of the scan, after
them one tick of the timers, and then only `last`. -/
structure Worked (keypad : Keypad) (cycles : Nat) (last actions : List Action)
    (h : Host ρ ι δ β) : Prop where
  keys : h.machine.keypad = keypad
  awake : ∀ f, h.machine.phase ≠ .halted f
  actions : ∃ spent, actions = .scan :: .setKeys keypad :: spent ++ .tick :: last ∧
    (∀ a ∈ spent, a = .cycle ∨ a = .resume) ∧ spent.count .cycle = cycles

/-- The machine has halted within its cycles, and nothing was done after that. -/
structure BrokenOff (keypad : Keypad) (fault : Fault) (actions : List Action)
    (h h' : Host ρ ι δ β) : Prop where
  known : ∀ word, fault ≠ .unknownOpcode word
  phase : h'.machine.phase = .halted fault
  display : h'.display = h.display
  buzzer : h'.buzzer = h.buzzer
  actions : ∃ spent, actions = .scan :: .setKeys keypad :: spent ∧
    ∀ a ∈ spent, a = .cycle ∨ a = .resume

variable [Input ι] [Display δ] [Buzzer β]

/-- What the outcome of a frame says about it is so. -/
def Agrees (h : Host ρ ι δ β) (cycles : Nat) (actions : List Action)
    (o : Outcome HostError FrameEnd (Host ρ ι δ β)) : Prop :=
  let active := o.state.machine.timers.soundActive
  match (Input.scan h.input).answer with
  | .error text => o.result = .error (.io text) ∧ o.state = h.scanned ∧ actions = [.scan]
  | .ok none => o.result = .ok .quit ∧ o.state = h.scanned ∧ actions = [.scan]
  | .ok (some keypad) =>
    match o.result with
    | .ok .quit => False
    | .ok .played =>
      Worked keypad cycles [.draw, .sync active] actions o.state ∧
        Display.draw h.display o.state.machine.screen = (.ok (), o.state.display) ∧
        Buzzer.isBeeping o.state.buzzer = active
    | .error (.fault fault) => BrokenOff keypad fault actions h o.state
    | .error (.io text) =>
      Worked keypad cycles [.draw] actions o.state ∧
        Display.draw h.display o.state.machine.screen = (.error text, o.state.display) ∧
        o.state.buzzer = h.buzzer
    | .error (.buzzer text) =>
      Worked keypad cycles [.draw, .sync active] actions o.state ∧
        Display.draw h.display o.state.machine.screen = (.ok (), o.state.display) ∧
        Buzzer.sync h.buzzer active = (.error text, o.state.buzzer)

variable [RandomSource ρ]

omit [Display δ] [Buzzer β] in
private theorem Works.worked {h h' : Host ρ ι δ β} {keypad : Keypad} {spent : List Action}
    {o : Outcome Fault Unit (Machine ρ)} (hk : h.Works keypad spent o) (hr : o.result = .ok ())
    (hc : 0 < h.cyclesPerFrame) (hm : h'.machine = o.state.tick) (last : List Action) :
    Worked keypad h.cyclesPerFrame last
      (.scan :: .setKeys keypad :: spent ++ .tick :: last) h' where
  keys := by
    rw [hm]
    exact hk.spends.keypad
  awake := by
    rw [hm]
    exact hk.spends.awake (.inl hc) hr
  actions := ⟨spent, rfl, hk.spends.only, hk.spends.count_cycle hr⟩

/-- A frame with a cycle to spend is as it says. -/
theorem Frames.agrees [SwitchedBuzzer β] {h : Host ρ ι δ β} (hc : 0 < h.cyclesPerFrame)
    {actions : List Action} {o : Outcome HostError FrameEnd (Host ρ ι δ β)}
    (hf : h.Frames actions o) : h.Agrees h.cyclesPerFrame actions o := by
  cases hf with
  | unscanned hs | quit hs =>
    simp only [Agrees, hs, and_self]
  | faulted hk hr =>
    obtain ⟨hp, hn⟩ := hk.spends.halted hr
    simp only [Agrees, hk.keys]
    exact ⟨hn, hp, rfl, rfl, _, rfl, hk.spends.only⟩
  | undrawn hk hr hd =>
    simp only [Agrees, hk.keys]
    exact ⟨hk.worked hr hc rfl _, hd, rfl⟩
  | unheard hk hr hd hb =>
    simp only [Agrees, hk.keys]
    exact ⟨hk.worked hr hc rfl _, hd, hb⟩
  | played hk hr hd hb =>
    simp only [Agrees, hk.keys]
    exact ⟨hk.worked hr hc rfl _, hd, Buzzer.isBeeping_of_sync hb⟩

omit [RandomSource ρ] [Input ι] [Display δ] [Buzzer β] in
/-- A frame has a sixtieth of the cycles of a second, and at least one. -/
theorem cyclesPerFrame_eq (hz : UInt32) : Chip8.cyclesPerFrame hz = max 1 (hz.toNat / 60) := by
  rw [Chip8.cyclesPerFrame, UInt32.toNat_div]
  rfl

/-- Every frame has an outcome that is as it says, at any speed: if the scan gives no keys nothing
else is touched; a frame that is played spends all its cycles, ticks once and draws once; a fault
ends it before that, and is never that of an unknown opcode; a device fails after that. A machine
can always be resumed after a cycle that met an unknown opcode. -/
theorem frame_outcomes [SwitchedBuzzer β] {h : Host ρ ι δ β} {hz : UInt32}
    (hw : h.machine.WaitsInRange) (hc : h.cyclesPerFrame = Chip8.cyclesPerFrame hz) :
    (∃ o actions, h.frame = .ok o ∧ h.perform actions = .ok o.state ∧
      h.Agrees (max 1 (hz.toNat / 60)) actions o) ∧
    ∀ (m : Machine ρ) (o : Outcome Fault Unit (Machine ρ)) (word : UInt16),
      m.WaitsInRange → m.cycle = .ok o → o.result = .error (.unknownOpcode word) →
      o.state.resume.result = .ok () := by
  rw [cyclesPerFrame_eq] at hc
  constructor
  · obtain ⟨actions, o, ho⟩ := h.exists_frames
    refine ⟨o, actions, frame_of_frames hw ho, ho.perform hw, ?_⟩
    rw [← hc]
    apply ho.agrees
    rw [hc]
    exact Nat.le_max_left 1 _
  · intro m o word hm ho hr
    have hh := ((Machine.cycle_eq_ok_iff hm).mp ho).halted hr
    rw [Machine.resume_of_unknownOpcode hh]

/-- A host whose machine passes over an unknown opcode and then sounds the buzzer for two ticks. -/
def buzzing : Host Cyclic SteadyInput CountingDisplay SilentBuzzer where
  machine :=
    { Machine.powerOn (Cyclic.ofList [0xA5]) .standard with
      memory := Memory.powerOn.put 0x200 [0xFF, 0xFF, 0x61, 0x02, 0xF1, 0x18, 0x12, 0x06] }
  input := ⟨.released⟩
  display := ⟨0, none⟩
  buzzer := .quiet
  cyclesPerFrame := 11

/-- The first frame of the buzzing host, with 660 cycles a second, is played and leaves the buzzer
on. -/
theorem frame_outcomes_buzzing :
    buzzing.machine.WaitsInRange ∧ buzzing.cyclesPerFrame = Chip8.cyclesPerFrame 660 ∧
      ∃ o actions, buzzing.frame = .ok o ∧ buzzing.perform actions = .ok o.state ∧
        buzzing.Agrees 11 actions o ∧ o.result = .ok .played ∧
        Buzzer.isBeeping o.state.buzzer = true := by
  have hw : buzzing.machine.WaitsInRange := by
    intro x hx
    cases hx
  have hc : buzzing.cyclesPerFrame = Chip8.cyclesPerFrame 660 := rfl
  obtain ⟨o, actions, ho, hperform, hagrees⟩ := (frame_outcomes hw hc).1
  have hplayed : buzzing.frame.toOption.map
      (fun o ↦ (o.result.toOption, Buzzer.isBeeping o.state.buzzer)) =
        some (some .played, true) := by
    decide +kernel
  rw [ho] at hplayed
  obtain ⟨hend, hbeeping⟩ :
      o.result.toOption = some .played ∧ Buzzer.isBeeping o.state.buzzer = true :=
    Prod.mk.inj (Option.some.inj hplayed)
  cases hr : o.result with
  | ok ending =>
    rw [hr] at hend
    cases Option.some.inj hend
    exact ⟨hw, hc, o, actions, ho, hperform, hagrees, hr, hbeeping⟩
  | error _ =>
    rw [hr] at hend
    cases hend

end Host
end Chip8
