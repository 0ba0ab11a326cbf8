import Chip8.Proofs.Silence

/-!
# Runs in two parts

A run that plays all of its frames can be followed by another one: the two do what one run does that
has the frames of both. The buzzer alone can tell, since it is switched off in between. It is then
behind the sound timer until it is next made to follow it, and has been switched as often as without
the break or twice more.
-/

namespace Chip8

/-! ### Buzzers that do not fail -/

namespace Buzzer

variable {β : Type} [Buzzer β]

/-- What calls make of a buzzer, one after the other, whether or not they fail. -/
def afterCalls (b : β) (calls : List Bool) : β :=
  calls.foldl (fun b wanted ↦ (call b wanted).2) b

/-- A buzzer of which no call fails, whatever calls came before it. -/
def Reliable (b : β) : Prop :=
  ∀ earlier wanted, (call (afterCalls b earlier) wanted).1 = .ok ()

/-- A reliable buzzer stays so, and can always be made to follow a flag. -/
theorem Reliable.sync {b : β} (h : Reliable b) (active : Bool) :
    (Buzzer.sync b active).1 = .ok () ∧ Reliable (Buzzer.sync b active).2 := by
  rw [sync_eq]
  split
  · exact ⟨rfl, h⟩
  · constructor
    · exact h [] active
    · intro earlier wanted
      exact h (active :: earlier) wanted

/-- A reliable buzzer that has been made to follow a flag is on if and only if the flag is. -/
theorem Reliable.isBeeping_sync [SwitchedBuzzer β] {b : β} (h : Reliable b) (active : Bool) :
    isBeeping (Buzzer.sync b active).2 = active :=
  isBeeping_of_sync (Prod.ext (h.sync active).1 rfl)

/-- Following a flag switches a reliable buzzer once if it was not as the flag is. -/
theorem Reliable.edges_sync [CountedBuzzer β] {b : β} (h : Reliable b) (active : Bool) :
    CountedBuzzer.edges (Buzzer.sync b active).2 =
      CountedBuzzer.edges b + if isBeeping b = active then 0 else 1 := by
  rw [sync_eq]
  split
  · rfl
  · exact CountedBuzzer.edges_call (Prod.ext (h [] active) rfl)

/-! ### Before and after a break -/

variable [CountedBuzzer β]

/-- Two reliable buzzers, of which the second has been switched off at some point where the first
was left alone. Either it is still off and the first is not, and it has been switched once more, or
they are alike, and it has been switched as often or twice more. -/
structure Interrupted (b b' : β) : Prop where
  left : Reliable b
  right : Reliable b'
  edges : isBeeping b = true ∧ isBeeping b' = false ∧
      CountedBuzzer.edges b' = CountedBuzzer.edges b + 1 ∨
    isBeeping b' = isBeeping b ∧ (CountedBuzzer.edges b' = CountedBuzzer.edges b ∨
      CountedBuzzer.edges b' = CountedBuzzer.edges b + 2)

/-- A reliable buzzer that is switched off is interrupted. -/
theorem Reliable.interrupted {b : β} (h : Reliable b) :
    Interrupted b (Buzzer.sync b false).2 where
  left := h
  right := (h.sync false).2
  edges := by
    rw [h.isBeeping_sync, h.edges_sync]
    cases isBeeping b <;> simp

/-- Interrupted buzzers are alike again once they have been made to follow the same flag. -/
theorem Interrupted.sync {b b' : β} (h : Interrupted b b') (active : Bool) :
    isBeeping (Buzzer.sync b' active).2 = isBeeping (Buzzer.sync b active).2 ∧
      (CountedBuzzer.edges (Buzzer.sync b' active).2 =
          CountedBuzzer.edges (Buzzer.sync b active).2 ∨
        CountedBuzzer.edges (Buzzer.sync b' active).2 =
          CountedBuzzer.edges (Buzzer.sync b active).2 + 2) := by
  obtain ⟨hb, hb', he⟩ := h
  rw [hb.isBeeping_sync, hb'.isBeeping_sync, hb.edges_sync, hb'.edges_sync]
  refine ⟨rfl, ?_⟩
  rcases he with ⟨hon, hoff, he⟩ | ⟨hsame, he⟩
  · -- The first catches up by being switched off, or the second by being switched on.
    rw [hon, hoff]
    cases active <;> simp <;> omega
  · rw [hsame]
    omega

/-- Interrupted buzzers stay so, and answer alike. -/
theorem Interrupted.inStep : InStep (Interrupted : β → β → Prop) := by
  intro b b' h active
  obtain ⟨hanswer, hleft⟩ := h.left.sync active
  obtain ⟨hanswer', hright⟩ := h.right.sync active
  exact ⟨hanswer'.trans hanswer.symm, hleft, hright, .inr (h.sync active)⟩

end Buzzer

/-- A silent buzzer that is not set to fail does not fail. -/
theorem SilentBuzzer.reliable {b : SilentBuzzer} (hb : b.beepFails = false)
    (hs : b.stopFails = false) : Buzzer.Reliable b := by
  intro earlier wanted
  induction earlier generalizing b with
  | nil => cases wanted <;> simp [Buzzer.afterCalls, Buzzer.call, Buzzer.beep, Buzzer.stop, hb, hs]
  | cons w earlier ih =>
    apply ih (b := (Buzzer.call b w).2)
    · cases w <;> simp [Buzzer.call, Buzzer.beep, Buzzer.stop, hb, hs]
    · cases w <;> simp [Buzzer.call, Buzzer.beep, Buzzer.stop, hb, hs]

/-! ### Runs -/

namespace Host

variable {ρ ι δ β : Type} [Buzzer β] [CountedBuzzer β]

/-- A run that goes on where one of `a` frames has ended compares with a run of all the frames: only
the switches of the buzzer may have been more. -/
structure GoesOn (a : Nat) (r₂ r : Run (Host ρ ι δ β)) : Prop where
  result : r₂.result = r.result
  ending : r₂.ending = r.ending
  played : a + r₂.played = r.played
  machine : r₂.host.machine = r.host.machine
  input : r₂.host.input = r.host.input
  display : r₂.host.display = r.host.display
  silent : Buzzer.isBeeping r₂.host.buzzer = false ∧ Buzzer.isBeeping r.host.buzzer = false
  edges : CountedBuzzer.edges r₂.host.buzzer = CountedBuzzer.edges r.host.buzzer ∨
    CountedBuzzer.edges r₂.host.buzzer = CountedBuzzer.edges r.host.buzzer + 2

/-- Switching off the buzzer after a sequence and after a longer one with the same end, one of them
interrupted. -/
theorem GoesOn.finish {s : Sequence (Host ρ ι δ β)} {b' : β}
    (h : Buzzer.Interrupted s.host.buzzer b') (a : Nat) (log : Log) :
    GoesOn a (finish (s.withBuzzer b')) (finish ⟨s.ending, a + s.played, s.host, log⟩) where
  result := by rw [finish_withBuzzer Buzzer.Interrupted.inStep h]; rfl
  ending := rfl
  played := rfl
  machine := rfl
  input := rfl
  display := rfl
  silent := ⟨h.right.isBeeping_sync false, h.left.isBeeping_sync false⟩
  edges := (h.sync false).2

variable [RandomSource ρ] [Input ι] [Display δ]

omit [CountedBuzzer β] in
/-- A run with the actions of its frames, after which the buzzer is switched off. -/
def RunsOut (h : Host ρ ι δ β) (limit : Nat) (actions : List Action)
    (r : Run (Host ρ ι δ β)) : Prop :=
  ∃ s, h.Runs limit actions s ∧ r = finish s

/-- If a run plays all of its frames, a second run from where it ended goes on as one run of the
frames of both, which takes the actions of the first and then those of the second. -/
theorem run_composes {h : Host ρ ι δ β} (hw : h.machine.WaitsInRange)
    (hb : Buzzer.Reliable h.buzzer) {a b fuel : Nat} {r₁ : Run (Host ρ ι δ β)}
    (hr₁ : h.run (some a) fuel = .ok (some r₁)) (he : r₁.ending = .limit) :
    ∃ r₂ r first second,
      r₁.host.run (some b) fuel = .ok (some r₂) ∧
      h.run (some (a + b)) fuel = .ok (some r) ∧
      h.RunsOut a first r₁ ∧ r₁.host.RunsOut b second r₂ ∧
      h.RunsOut (a + b) (first ++ second) r ∧ GoesOn a r₂ r := by
  obtain ⟨first, s₁, hs₁, -, rfl⟩ := exists_runs_of_run hw hr₁
  have hs₁' := hs₁
  cases hs₁' with
  | quit _ _ _ _ | failed _ _ _ _ => cases he
  | @limit _ _ before hp =>
    have hbefore : Buzzer.Reliable before.buzzer :=
      hs₁.keeps (fun _ hb active ↦ (hb.sync active).2) hb
    -- The second run, with the buzzer left alone and with the buzzer switched off before it.
    obtain ⟨second, s, hs⟩ := before.exists_runs b
    obtain ⟨b', hs₂, hi⟩ := hs.withBuzzer Buzzer.Interrupted.inStep hbefore.interrupted
    obtain ⟨log, hsum⟩ := hp.runs hs
    refine ⟨_, _, first, second, hs₂.run_eq (hp.waits hw) (by simp),
      hsum.run_eq hw (by simp), ⟨_, hs₁, rfl⟩, ⟨_, hs₂, rfl⟩,
      ⟨_, hsum, rfl⟩, .finish hi a log⟩

/-- A host whose machine sets the sound timer to many ticks and then jumps in place. -/
def humming : Host Cyclic SteadyInput CountingDisplay SilentBuzzer where
  machine :=
    { Machine.powerOn (Cyclic.ofList [0xA5]) .standard with
      memory := Memory.powerOn.put 0x200 [0x61, 0x30, 0xF1, 0x18, 0x12, 0x04] }
  input := ⟨.released⟩
  display := ⟨0, none⟩
  buzzer := .quiet
  cyclesPerFrame := 11

/-- A run of one frame and one of two compare with one of three. -/
theorem run_composes_humming :
    humming.machine.WaitsInRange ∧ Buzzer.Reliable humming.buzzer ∧
      ∃ r₁, humming.run (some 1) 0 = .ok (some r₁) ∧ r₁.ending = .limit ∧
        ∃ r₂ r first second,
          r₁.host.run (some 2) 0 = .ok (some r₂) ∧
          humming.run (some 3) 0 = .ok (some r) ∧
          humming.RunsOut 1 first r₁ ∧ r₁.host.RunsOut 2 second r₂ ∧
          humming.RunsOut 3 (first ++ second) r ∧ GoesOn 1 r₂ r := by
  have hw : humming.machine.WaitsInRange := by
    intro x hx
    cases hx
  have hb : Buzzer.Reliable humming.buzzer := SilentBuzzer.reliable rfl rfl
  have hlimit : (humming.run (some 1) 0).toOption.join.map (·.ending) = some .limit := by
    decide +kernel
  obtain ⟨r₁, hr₁, he⟩ := Option.map_eq_some_iff.mp hlimit
  refine ⟨hw, hb, r₁, ?_⟩
  cases ho : humming.run (some 1) 0 with
  | error _ =>
    rw [ho] at hr₁
    cases hr₁
  | ok answer =>
    rw [ho] at hr₁
    cases hr₁
    exact ⟨rfl, he, run_composes hw hb ho he⟩

end Host
end Chip8
