import Chip8.Proofs.Buzzers
import Chip8.Proofs.FrameOutcomes

/-!
# The buzzer of a run

A run uses its buzzer only to change something, and the last thing it does is to switch it off. A
tape of the calls tells how that went: there is a noise after the run only if the last call, which
was to end it, failed. A buzzer that counts its switches has an odd count while there is a noise,
if it began with an even one in silence.
-/

namespace Chip8

namespace Buzzer

variable {β : Type} [Buzzer β]

/-- Start the noise or end it. -/
def call (b : β) : Bool → Except String Unit × β
  | true => beep b
  | false => stop b

/-- A buzzer is only called if there is something to change. -/
theorem sync_eq (b : β) (active : Bool) :
    sync b active = if isBeeping b = active then (.ok (), b) else call b active := by
  cases active <;> cases hb : isBeeping b <;> simp [sync, call, hb]

end Buzzer

/-! ### Tapes -/

/-- A call of a buzzer: whether a noise was wanted, whether there was one before, and the answer. -/
structure Call where
  wanted : Bool
  before : Bool
  answer : Except String Unit

/-- Whether there is a noise after a call. One that fails changes nothing. -/
def Call.after (c : Call) : Bool :=
  match c.answer with
  | .ok () => c.wanted
  | .error _ => c.before

/-- The last call of a tape was to end a noise, and failed. -/
def Unstopped (tape : List Call) (text : String) : Prop :=
  tape.getLast? = some ⟨false, true, .error text⟩

/-- A buzzer and the calls that it got, in order. -/
structure Taped (β : Type) where
  buzzer : β
  tape : List Call

namespace Taped

variable {β : Type} [Buzzer β]

/-- Pass a call on, and note it with its answer. -/
def call (t : Taped β) (wanted : Bool) : Except String Unit × Taped β :=
  let (answer, buzzer) := Buzzer.call t.buzzer wanted
  (answer, ⟨buzzer, t.tape ++ [⟨wanted, Buzzer.isBeeping t.buzzer, answer⟩]⟩)

instance : Buzzer (Taped β) where
  beep t := t.call true
  stop t := t.call false
  isBeeping t := Buzzer.isBeeping t.buzzer

theorem isBeeping_eq (t : Taped β) : Buzzer.isBeeping t = Buzzer.isBeeping t.buzzer := rfl

theorem buzzer_call (t : Taped β) (wanted : Bool) : Buzzer.call t wanted = t.call wanted := by
  cases wanted <;> rfl

end Taped

/-! ### Buzzers that count -/

/-- Buzzers that count how often they are switched. A call that fails leaves the noise and the
count as they are; it can fail at any time. -/
class CountedBuzzer (β : Type) [Buzzer β] extends SwitchedBuzzer β where
  edges : β → Nat
  edges_call : ∀ {b b' : β} {wanted : Bool}, Buzzer.call b wanted = (.ok (), b') →
    edges b' = edges b + 1
  call_failed : ∀ {b b' : β} {wanted : Bool} {text : String},
    Buzzer.call b wanted = (.error text, b') →
      Buzzer.isBeeping b' = Buzzer.isBeeping b ∧ edges b' = edges b

/-- A call of the silent buzzer switches it and counts one, or fails and does nothing. -/
theorem SilentBuzzer.call_cases {b b' : SilentBuzzer} {wanted : Bool} {answer : Except String Unit}
    (h : Buzzer.call b wanted = (answer, b')) :
    answer = .ok () ∧ b' = { b with beeping := wanted, edges := b.edges + 1 } ∨
      answer ≠ .ok () ∧ b' = b := by
  cases wanted with
  | true =>
    simp only [Buzzer.call, Buzzer.beep] at h
    split at h <;> cases h <;> simp
  | false =>
    simp only [Buzzer.call, Buzzer.stop] at h
    split at h <;> cases h <;> simp

instance : CountedBuzzer SilentBuzzer where
  edges := SilentBuzzer.edges
  edges_call := by
    intro b b' wanted h
    rcases SilentBuzzer.call_cases h with ⟨-, rfl⟩ | ⟨hn, -⟩
    · rfl
    · exact absurd rfl hn
  call_failed := by
    intro b b' wanted text h
    rcases SilentBuzzer.call_cases h with ⟨ha, -⟩ | ⟨-, rfl⟩
    · cases ha
    · exact ⟨rfl, rfl⟩

namespace Buzzer

variable {β : Type} [Buzzer β]

/-- A call that does not fail is obeyed. -/
theorem isBeeping_of_call [SwitchedBuzzer β] {b b' : β} {wanted : Bool}
    (h : call b wanted = (.ok (), b')) : isBeeping b' = wanted := by
  cases wanted with
  | true => exact SwitchedBuzzer.isBeeping_beep h
  | false => exact SwitchedBuzzer.isBeeping_stop h

variable [CountedBuzzer β]

/-- What a call says of the noise after it is so. -/
theorem isBeeping_call (b : β) (wanted : Bool) :
    isBeeping (call b wanted).2 = Call.after ⟨wanted, isBeeping b, (call b wanted).1⟩ := by
  rcases hc : call b wanted with ⟨_ | _, b'⟩
  · exact (CountedBuzzer.call_failed hc).1
  · exact isBeeping_of_call hc

/-- A buzzer that was told to be off and is not has failed at that. -/
theorem isBeeping_sync_false (b : β) :
    isBeeping (sync b false).2 = true ↔ ∃ text, (sync b false).1 = .error text := by
  rw [sync_eq]
  by_cases hb : isBeeping b = false
  · simp [hb]
  · rw [if_neg hb, isBeeping_call]
    rw [Bool.not_eq_false] at hb
    cases (call b false).1 <;> simp [Call.after, hb]

/-- There is a noise if and only if the count is odd. -/
def InPhase (b : β) : Prop := isBeeping b = true ↔ CountedBuzzer.edges b % 2 = 1

/-- Following a flag switches the noise and counts one, or leaves both alone. -/
theorem InPhase.sync {b : β} (hb : InPhase b) (active : Bool) :
    InPhase (Buzzer.sync b active).2 := by
  rw [sync_eq]
  by_cases ha : isBeeping b = active
  · rwa [if_pos ha]
  · rw [if_neg ha]
    unfold InPhase at hb ⊢
    rcases hc : call b active with ⟨text | _, b'⟩
    · obtain ⟨hbeep, hedges⟩ := CountedBuzzer.call_failed hc
      rwa [hbeep, hedges]
    · have hn : active = !isBeeping b := Bool.eq_not.mpr (Ne.symm ha)
      rw [isBeeping_of_call hc, CountedBuzzer.edges_call hc, hn]
      cases hbeep : isBeeping b with
      | true =>
        have hodd := hb.mp hbeep
        exact iff_of_false (by simp) (by omega)
      | false =>
        have heven := mt hb.mpr (by simp [hbeep])
        exact iff_of_true rfl (by omega)

end Buzzer

/-! ### Following a buzzer on tape -/

/-- The tape of a buzzer is true: all its calls were to change something, and the last says whether
there is a noise. -/
structure Follows {β : Type} [Buzzer β] (b : β) (t : Taped β) : Prop where
  buzzer : t.buzzer = b
  changes : ∀ c ∈ t.tape, c.wanted ≠ c.before
  last : ∀ c, t.tape.getLast? = some c → Buzzer.isBeeping b = c.after

namespace Follows

variable {β : Type} [Buzzer β]

/-- A tape stays true, and a buzzer on tape answers as it would without one. -/
theorem inStep [CountedBuzzer β] : Buzzer.InStep (Follows : β → Taped β → Prop) := by
  rintro _ t ⟨rfl, hc, hl⟩ active
  rw [Buzzer.sync_eq, Buzzer.sync_eq, Taped.isBeeping_eq]
  by_cases ha : Buzzer.isBeeping t.buzzer = active
  · rw [if_pos ha, if_pos ha]
    exact ⟨rfl, rfl, hc, hl⟩
  · rw [if_neg ha, if_neg ha, Taped.buzzer_call]
    refine ⟨rfl, rfl, ?_, ?_⟩
    · intro c hm
      rcases List.mem_append.mp hm with hm | hm
      · exact hc c hm
      · cases List.mem_singleton.mp hm
        exact Ne.symm ha
    · intro c hs
      rw [Taped.call, List.getLast?_concat] at hs
      cases hs
      exact Buzzer.isBeeping_call t.buzzer active

/-- The last call of a tape that ends with the noise being ended tells whether that failed. -/
theorem unstopped_iff {b : β} {t : Taped β} (hf : Follows b t) (text : String) :
    Unstopped (Buzzer.sync t false).2.tape text ↔ (Buzzer.sync b false).1 = .error text := by
  obtain ⟨rfl, -, hl⟩ := hf
  rw [Unstopped, Buzzer.sync_eq, Buzzer.sync_eq, Taped.isBeeping_eq]
  by_cases hb : Buzzer.isBeeping t.buzzer = false
  · -- Nothing is called. A stop that had failed as the last call would have left a noise.
    rw [if_pos hb, if_pos hb]
    refine ⟨fun hs ↦ ?_, fun hs ↦ by cases hs⟩
    have hn := hl _ hs
    rw [hb] at hn
    cases hn
  · rw [if_neg hb, if_neg hb, Taped.buzzer_call, Taped.call, List.getLast?_concat]
    rw [Bool.not_eq_false] at hb
    simp [hb, Buzzer.call]

end Follows

/-! ### Runs -/

namespace Host

variable {ρ ι δ β : Type}

/-- The host with its buzzer on a new tape. -/
def taped (h : Host ρ ι δ β) : Host ρ ι δ (Taped β) := h.withBuzzer ⟨h.buzzer, []⟩

variable [Buzzer β]

/-- The error of a frame goes before that of the buzzer being switched off. -/
theorem finish_result (s : Sequence (Host ρ ι δ β)) (e : HostError) :
    (finish s).result = .error e ↔ s.ending = .failed e ∨ s.ending.result = .ok () ∧
      ∃ text, (Buzzer.sync s.host.buzzer false).1 = .error text ∧ e = .buzzer text := by
  cases hs : s.ending with
  | failed _ => simp [finish, Ending.result, hs]
  | limit | quit =>
    cases hq : (Buzzer.sync s.host.buzzer false).1 with
    | error text =>
      have hr : (finish s).result = .error (.buzzer text) := by
        simp only [finish, hs, hq]
        rfl
      simp [hr, Ending.result, eq_comm]
    | ok _ =>
      have hr : (finish s).result = .ok () := by
        simp only [finish, hs, hq]
        rfl
      simp [hr]

/-- A run has left its buzzer silent, as far as it would let it: what the tape of the calls says
of the run that follows a sequence of frames. -/
structure Silenced (tape : List Call) (s : Sequence (Host ρ ι δ β)) (r : Run (Host ρ ι δ β)) :
    Prop where
  /-- The frames have ended as those of the sequence. -/
  ending : r.ending = s.ending
  /-- Every call was to change something. -/
  changes : ∀ c ∈ tape, c.wanted ≠ c.before
  /-- There is a noise only if the last call was to end it and failed. -/
  quiet : Buzzer.isBeeping r.host.buzzer = true ↔ ∃ text, Unstopped tape text
  /-- The error of a frame is returned if there is one, and else that of the last call. -/
  result : ∀ e, r.result = .error e ↔ s.ending = .failed e ∨ s.ending.result = .ok () ∧
    ∃ text, Unstopped tape text ∧ e = .buzzer text

variable [CountedBuzzer β]

/-- Switching the buzzer off after a sequence leaves it silent, if its tape was true. -/
theorem Silenced.of_follows {s : Sequence (Host ρ ι δ β)} {t : Taped β}
    (hf : Follows s.host.buzzer t) :
    Silenced (Buzzer.sync t false).2.tape s (finish s) where
  ending := rfl
  changes := (Follows.inStep hf false).2.changes
  quiet := by
    simp only [hf.unstopped_iff]
    exact Buzzer.isBeeping_sync_false s.host.buzzer
  result := by
    simp only [hf.unstopped_iff]
    exact finish_result s

variable [RandomSource ρ] [Input ι] [Display δ]

/-- A run that comes to its end has left its buzzer silent. The tape is that of the same run on a
buzzer with a tape, which differs in nothing else. If the run began in silence with an even count,
the count has told the noise after every number of frames, and is even again after the run if the
last call did not fail to end the noise. -/
theorem run_silences {h : Host ρ ι δ β} (hw : h.machine.WaitsInRange) {limit : Option Nat}
    {fuel : Nat} {r : Run (Host ρ ι δ β)} (hr : h.run limit fuel = .ok (some r)) :
    ∃ s tape, h.frames (limit.getD fuel) 0 #[] = .ok s ∧
      h.taped.run limit fuel = .ok (some (r.withBuzzer ⟨r.host.buzzer, tape⟩)) ∧
      Silenced tape s r ∧
      (Buzzer.isBeeping h.buzzer = false → CountedBuzzer.edges h.buzzer % 2 = 0 →
        (∀ n s', h.frames n 0 #[] = .ok s' →
          (Buzzer.isBeeping s'.host.buzzer = true ↔
            CountedBuzzer.edges s'.host.buzzer % 2 = 1)) ∧
        ((∀ text, ¬ Unstopped tape text) → CountedBuzzer.edges r.host.buzzer % 2 = 0)) := by
  obtain ⟨actions, s, hs, he, rfl⟩ := exists_runs_of_run hw hr
  obtain ⟨t, hst, hf⟩ := hs.withBuzzer Follows.inStep
    (show Follows h.buzzer ⟨h.buzzer, []⟩ from ⟨rfl, by simp, by simp⟩)
  have hsilenced := Silenced.of_follows hf
  refine ⟨s, (Buzzer.sync t false).2.tape, hs.frames_eq hw, ?_, hsilenced, ?_⟩
  · have hrun := hst.run_eq hw he
    rw [finish_withBuzzer Follows.inStep hf] at hrun
    have hbuzzer : (Buzzer.sync t false).2.buzzer = (finish s).host.buzzer :=
      (Follows.inStep hf false).2.buzzer
    rw [← hbuzzer]
    exact hrun
  · intro hquiet heven
    have hphase : Buzzer.InPhase h.buzzer := by simp [Buzzer.InPhase, hquiet, heven]
    have hkeeps {n : Nat} {actions : List Action} {s' : Sequence (Host ρ ι δ β)}
        (hs' : h.Runs n actions s') : Buzzer.InPhase s'.host.buzzer :=
      hs'.keeps (fun _ ↦ Buzzer.InPhase.sync) hphase
    constructor
    · intro n s' hn
      obtain ⟨_, hs'⟩ := exists_runs_of_frames hw hn
      exact hkeeps hs'
    · intro hstopped
      have hend : Buzzer.InPhase (finish s).host.buzzer := (hkeeps hs).sync false
      have hoff : ¬ Buzzer.isBeeping (finish s).host.buzzer = true := by
        rw [hsilenced.quiet]
        exact not_exists.mpr hstopped
      exact Nat.mod_two_ne_one.mp (mt hend.mpr hoff)

/-- A host whose machine sets the sound timer in the only frame, and whose buzzer cannot be
stopped. -/
def stuckBuzzing : Host Cyclic SteadyInput CountingDisplay SilentBuzzer where
  machine :=
    { Machine.powerOn (Cyclic.ofList [0xA5]) .standard with
      memory := Memory.powerOn.put 0x200 [0x61, 0x30, 0xF1, 0x18] }
  input := ⟨.released⟩
  display := ⟨0, none⟩
  buzzer := { SilentBuzzer.quiet with stopFails := true }
  cyclesPerFrame := 2

/-- The host was silent before its run for one frame, and is not after it, since the last call
failed to end the noise. -/
theorem run_silences_stuckBuzzing :
    stuckBuzzing.machine.WaitsInRange ∧ Buzzer.isBeeping stuckBuzzing.buzzer = false ∧
      CountedBuzzer.edges stuckBuzzing.buzzer % 2 = 0 ∧
      ∃ r, stuckBuzzing.run (some 1) 0 = .ok (some r) ∧
        Buzzer.isBeeping r.host.buzzer = true ∧
        ∃ s tape, stuckBuzzing.frames 1 0 #[] = .ok s ∧
          stuckBuzzing.taped.run (some 1) 0 =
            .ok (some (r.withBuzzer ⟨r.host.buzzer, tape⟩)) ∧
          Silenced tape s r ∧ (∃ text, Unstopped tape text) ∧
          ∀ n s', stuckBuzzing.frames n 0 #[] = .ok s' →
            (Buzzer.isBeeping s'.host.buzzer = true ↔
              CountedBuzzer.edges s'.host.buzzer % 2 = 1) := by
  have hw : stuckBuzzing.machine.WaitsInRange := by
    intro x hx
    cases hx
  have hnoise : (stuckBuzzing.run (some 1) 0).toOption.join.map (·.host.buzzer.beeping) =
      some true := by
    decide +kernel
  obtain ⟨r, hrun, hr⟩ := Option.map_eq_some_iff.mp hnoise
  refine ⟨hw, rfl, rfl, r, ?_⟩
  cases ho : stuckBuzzing.run (some 1) 0 with
  | error _ =>
    rw [ho] at hrun
    cases hrun
  | ok answer =>
    rw [ho] at hrun
    cases hrun
    obtain ⟨s, tape, hs, htaped, hsilenced, hcount⟩ := run_silences hw ho
    exact ⟨rfl, hr, s, tape, hs, htaped, hsilenced, hsilenced.quiet.mp hr, (hcount rfl rfl).1⟩

end Host
end Chip8
