import Chip8.Proofs.Runs

/-!
# Other buzzers

A host never looks at its buzzer, it only takes its answers. So hosts that differ in nothing but
the buzzer do the same things for as long as their buzzers give the same answers.
-/

namespace Chip8

/-- Buzzers that are so related give the same answer when they are made to follow a flag, and
stay related. -/
def Buzzer.InStep {β β' : Type} [Buzzer β] [Buzzer β'] (R : β → β' → Prop) : Prop :=
  ∀ ⦃b b'⦄, R b b' → ∀ active,
    (sync b' active).1 = (sync b active).1 ∧ R (sync b active).2 (sync b' active).2

namespace Host

variable {ρ ι δ β β' : Type}

/-- A host with another buzzer. -/
def withBuzzer (h : Host ρ ι δ β) (buzzer : β') : Host ρ ι δ β' := { h with buzzer }

end Host

/-- A sequence with another buzzer at its end. -/
def Sequence.withBuzzer {ρ ι δ β β' : Type} (s : Sequence (Host ρ ι δ β)) (buzzer : β') :
    Sequence (Host ρ ι δ β') :=
  { s with host := s.host.withBuzzer buzzer }

/-- A run with another buzzer at its end. -/
def Run.withBuzzer {ρ ι δ β β' : Type} (r : Run (Host ρ ι δ β)) (buzzer : β') :
    Run (Host ρ ι δ β') :=
  { r with host := r.host.withBuzzer buzzer }

namespace Host

variable {ρ ι δ β β' : Type} [RandomSource ρ] [Input ι] [Display δ] [Buzzer β] [Buzzer β']
variable {R : β → β' → Prop} {h : Host ρ ι δ β} {b : β'} {actions : List Action}

omit [Display δ] [Buzzer β] [Buzzer β'] in
private theorem Works.withBuzzer {keypad : Keypad} {spent : List Action}
    {o : Outcome Fault Unit (Machine ρ)} (hk : h.Works keypad spent o) (b : β') :
    (h.withBuzzer b).Works keypad spent o :=
  ⟨hk.keys, hk.spends⟩

/-- A frame is the same with a buzzer that gives the same answers. -/
theorem Frames.withBuzzer (hR : Buzzer.InStep R) (hb : R h.buzzer b)
    {o : Outcome HostError FrameEnd (Host ρ ι δ β)} (hf : h.Frames actions o) :
    ∃ b', (h.withBuzzer b).Frames actions ⟨o.result, o.state.withBuzzer b', o.log⟩ ∧
      R o.state.buzzer b' := by
  cases hf with
  | unscanned hs => exact ⟨b, .unscanned hs, hb⟩
  | quit hs => exact ⟨b, .quit hs, hb⟩
  | faulted hk hr => exact ⟨b, .faulted (hk.withBuzzer b) hr, hb⟩
  | undrawn hk hr hd => exact ⟨b, .undrawn (hk.withBuzzer b) hr hd, hb⟩
  | @unheard _ _ o _ _ _ hk hr hd hs =>
    obtain ⟨hanswer, hstay⟩ := hR hb o.state.tick.timers.soundActive
    rw [hs] at hanswer hstay
    exact ⟨_, .unheard (hk.withBuzzer b) hr hd (Prod.ext hanswer rfl), hstay⟩
  | @played _ _ o _ _ hk hr hd hs =>
    obtain ⟨hanswer, hstay⟩ := hR hb o.state.tick.timers.soundActive
    rw [hs] at hanswer hstay
    exact ⟨_, .played (hk.withBuzzer b) hr hd (Prod.ext hanswer rfl), hstay⟩

/-- Frames that are played are the same with a buzzer that gives the same answers. -/
theorem Plays.withBuzzer (hR : Buzzer.InStep R) {c : Nat} {log : Log} {h' : Host ρ ι δ β}
    (hp : Plays c h actions log h') (hb : R h.buzzer b) :
    ∃ b', Plays c (h.withBuzzer b) actions log (h'.withBuzzer b') ∧ R h'.buzzer b' := by
  induction hp generalizing b with
  | none => exact ⟨b, .none, hb⟩
  | frame hf hr _ ih =>
    obtain ⟨_, hf', hb'⟩ := hf.withBuzzer hR hb
    obtain ⟨_, hp', hb''⟩ := ih hb'
    exact ⟨_, .frame hf' hr hp', hb''⟩

/-- A sequence of frames is the same with a buzzer that gives the same answers. -/
theorem Runs.withBuzzer (hR : Buzzer.InStep R) (hb : R h.buzzer b) {n : Nat}
    {s : Sequence (Host ρ ι δ β)} (hr : h.Runs n actions s) :
    ∃ b', (h.withBuzzer b).Runs n actions (s.withBuzzer b') ∧ R s.host.buzzer b' := by
  cases hr with
  | limit hp =>
    obtain ⟨_, hp', hb'⟩ := hp.withBuzzer hR hb
    exact ⟨_, .limit hp', hb'⟩
  | quit hc hp hf hr =>
    obtain ⟨_, hp', hb'⟩ := hp.withBuzzer hR hb
    obtain ⟨_, hf', hb''⟩ := hf.withBuzzer hR hb'
    exact ⟨_, .quit hc hp' hf' hr, hb''⟩
  | failed hc hp hf hr =>
    obtain ⟨_, hp', hb'⟩ := hp.withBuzzer hR hb
    obtain ⟨_, hf', hb''⟩ := hf.withBuzzer hR hb'
    exact ⟨_, .failed hc hp' hf' hr, hb''⟩

omit [RandomSource ρ] [Input ι] [Display δ] in
/-- Switching the buzzer off after a sequence is the same with a buzzer that gives the same answers.
-/
theorem finish_withBuzzer (hR : Buzzer.InStep R) {s : Sequence (Host ρ ι δ β)}
    (hb : R s.host.buzzer b) :
    finish (s.withBuzzer b) = (finish s).withBuzzer (Buzzer.sync b false).2 := by
  obtain ⟨hanswer, -⟩ := hR hb false
  simp only [finish, Sequence.withBuzzer, Run.withBuzzer, Host.withBuzzer, hanswer]

/-- What every use of a buzzer keeps, a sequence of frames keeps. -/
theorem Runs.keeps {P : β → Prop} (hP : ∀ b, P b → ∀ active, P (Buzzer.sync b active).2)
    {n : Nat} {s : Sequence (Host ρ ι δ β)} (hr : h.Runs n actions s) (hb : P h.buzzer) :
    P s.host.buzzer := by
  -- A buzzer is in step with itself, so the property can ride along.
  have hR : Buzzer.InStep fun b b' : β ↦ b' = b ∧ P b := by
    rintro _ b ⟨rfl, hb⟩ active
    exact ⟨rfl, rfl, hP b hb active⟩
  obtain ⟨_, -, -, hs⟩ := hr.withBuzzer hR ⟨rfl, hb⟩
  exact hs

end Host
end Chip8
