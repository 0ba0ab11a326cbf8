import Chip8.Proofs.History

/-!
# Commands, case by case

All that one command can do. Every command has a case on every machine, so that it always has an
outcome, and what each case keeps is kept by any number of commands.
-/

namespace Chip8

/-- Loading succeeds exactly for programs that fit, and puts them at their address in memory as it
is at power on, whatever memory held before. -/
theorem Memory.load_eq (m : Memory memorySize) (program : List UInt8) :
    m.load program =
      if maxProgramSize < program.length then
        .error (.programTooLarge program.length maxProgramSize)
      else .ok (Memory.powerOn.put programAddr program) := by
  unfold load
  split
  · rfl
  · rw [writeCells_eq, reset_eq, put]

namespace Machine

variable {ρ : Type}

/-- A program that does not fit is refused, and nothing changes. -/
theorem load_of_lt (m : Machine ρ) {program : List UInt8}
    (h : maxProgramSize < program.length) :
    m.load program = ⟨.error (.programTooLarge program.length maxProgramSize), m, #[]⟩ := by
  rw [load, Memory.load_eq, if_pos h]

/-- A program that fits resets the machine. -/
theorem load_of_le (m : Machine ρ) {program : List UInt8}
    (h : program.length ≤ maxProgramSize) :
    m.load program =
      ⟨.ok (), m.reset (Memory.powerOn.put programAddr program),
        #[.loaded program.length]⟩ := by
  rw [load, Memory.load_eq, if_neg (Nat.not_lt.mpr h)]
  rfl

variable [RandomSource ρ]

/-- What a command does, and what it leaves behind. -/
inductive Obeys (m : Machine ρ) : Command → Outcome LoadError Unit (Machine ρ) → Prop where
  /-- A program does not fit. -/
  | tooLarge {program : List UInt8} (size : maxProgramSize < program.length) :
    Obeys m (.load program)
      ⟨.error (.fault (.programTooLarge program.length maxProgramSize)), m, #[]⟩
  /-- A program fits. -/
  | loaded {program : List UInt8} (size : program.length ≤ maxProgramSize) :
    Obeys m (.load program)
      ⟨.ok (), m.reset (Memory.powerOn.put programAddr program), #[.loaded program.length]⟩
  /-- A reading failed. -/
  | unread {reading : Reading} {text : String} (failure : reading.failure = some text) :
    Obeys m (.loadFrom reading) ⟨.error (.io text), m, #[]⟩
  /-- What has been read is loaded. -/
  | read {reading : Reading} {o : Outcome LoadError Unit (Machine ρ)}
    (failure : reading.failure = none) (load : Obeys m (.load reading.bytes) o) :
    Obeys m (.loadFrom reading) o
  /-- A cycle. -/
  | cycled {o : Outcome Fault Unit (Machine ρ)} (cycles : m.Cycles o) : Obeys m .cycle o.asLoad
  /-- A machine runs on past an unknown opcode. -/
  | resumed {word : UInt16} (phase : m.phase = .halted (.unknownOpcode word)) :
    Obeys m .resume ⟨.ok (), { m with phase := .running }, #[.resumed word]⟩
  /-- A machine does not run on past any other fault. -/
  | stuck {f : Fault} (phase : m.phase = .halted f) (known : ∀ word, f ≠ .unknownOpcode word) :
    Obeys m .resume ⟨.error (.fault f), m, #[]⟩
  /-- A machine that has not halted needs no resuming. -/
  | unhalted (phase : ∀ f, m.phase ≠ .halted f) : Obeys m .resume ⟨.ok (), m, #[]⟩
  /-- The timers count down. -/
  | ticked : Obeys m .tick ⟨.ok (), m.tick, #[]⟩
  /-- There is no such key. -/
  | noKey {key : Nat} {down : Bool} {f : Fault} (set : m.keypad.set key down = .error f) :
    Obeys m (.setKey key down) ⟨.error (.fault f), m, #[]⟩
  /-- One key is set. -/
  | keySet {key : Nat} {down : Bool} {keypad : Keypad} (set : m.keypad.set key down = .ok keypad) :
    Obeys m (.setKey key down) ⟨.ok (), m.setKeys keypad, #[]⟩
  /-- All keys are set. -/
  | keysSet {keypad : Keypad} : Obeys m (.setKeys keypad) ⟨.ok (), m.setKeys keypad, #[]⟩

private theorem exists_obeys_load (m : Machine ρ) (program : List UInt8) :
    ∃ o, m.Obeys (.load program) o := by
  by_cases h : maxProgramSize < program.length
  · exact ⟨_, .tooLarge h⟩
  · exact ⟨_, .loaded (Nat.le_of_not_lt h)⟩

/-- Every command has a case of `Obeys`. -/
theorem exists_obeys (m : Machine ρ) (c : Command) : ∃ o, m.Obeys c o := by
  cases c with
  | load program => exact exists_obeys_load m program
  | loadFrom reading =>
    cases hf : reading.failure with
    | some text => exact ⟨_, .unread hf⟩
    | none =>
      obtain ⟨o, ho⟩ := exists_obeys_load m reading.bytes
      exact ⟨o, .read hf ho⟩
  | cycle =>
    obtain ⟨o, ho⟩ := exists_cycles m
    exact ⟨_, .cycled ho⟩
  | resume =>
    cases hp : m.phase with
    | halted f =>
      by_cases hw : ∃ word, f = .unknownOpcode word
      · obtain ⟨word, rfl⟩ := hw
        exact ⟨_, .resumed hp⟩
      · exact ⟨_, .stuck hp fun word h ↦ hw ⟨word, h⟩⟩
    | running | waiting _ =>
      refine ⟨_, .unhalted ?_⟩
      intro f hf
      rw [hp] at hf
      cases hf
  | tick => exact ⟨_, .ticked⟩
  | setKey key down =>
    cases hk : m.keypad.set key down with
    | error f => exact ⟨_, .noKey hk⟩
    | ok keypad => exact ⟨_, .keySet hk⟩
  | setKeys keypad => exact ⟨_, .keysSet⟩

omit [RandomSource ρ] in
/-- A machine that halted at an unknown opcode can be resumed. -/
theorem resume_of_unknownOpcode {m : Machine ρ} {word : UInt16}
    (h : m.phase = .halted (.unknownOpcode word)) :
    m.resume = ⟨.ok (), { m with phase := .running }, #[.resumed word]⟩ := by
  simp only [resume, h]

omit [RandomSource ρ] in
private theorem resume_of_known {m : Machine ρ} {f : Fault} (h : m.phase = .halted f)
    (hf : ∀ word, f ≠ .unknownOpcode word) : m.resume = ⟨.error f, m, #[]⟩ := by
  cases f with
  | unknownOpcode word => exact absurd rfl (hf word)
  | _ => simp only [resume, h]

omit [RandomSource ρ] in
private theorem resume_of_unhalted {m : Machine ρ} (h : ∀ f, m.phase ≠ .halted f) :
    m.resume = ⟨.ok (), m, #[]⟩ := by
  cases hp : m.phase with
  | halted f => exact absurd hp (h f)
  | running | waiting _ => simp only [resume, hp]

/-- The case of `Obeys` that a command has is what the machine makes of it. Only a cycle can meet a
wait for a register that does not exist. -/
theorem obey_eq_of_obeys {m : Machine ρ} {c : Command} (hw : c = .cycle → m.WaitsInRange)
    {o : Outcome LoadError Unit (Machine ρ)} (h : m.Obeys c o) : m.obey c = .ok o := by
  induction h with
  | tooLarge hs =>
    simp only [obey, load_of_lt m hs]
    rfl
  | loaded hs =>
    simp only [obey, load_of_le m hs]
    rfl
  | unread hf => simp only [obey, loadFrom, hf]
  | read hf _ ih =>
    have hl := ih (by simp)
    simp only [obey] at hl
    simp only [obey, loadFrom, hf, hl]
  | cycled hc => simp only [obey, cycle_of_cycles (hw rfl) hc]
  | resumed hp =>
    simp only [obey, resume_of_unknownOpcode hp]
    rfl
  | stuck hp hf =>
    simp only [obey, resume_of_known hp hf]
    rfl
  | unhalted hp =>
    simp only [obey, resume_of_unhalted hp]
    rfl
  | ticked | keysSet => rfl
  | noKey hk => simp only [obey, setKey, hk]
  | keySet hk =>
    simp only [obey, setKey, hk]
    rfl

/-- On a machine that waits for no register that does not exist, the case of any command is what the
machine makes of it. -/
theorem obey_of_obeys {m : Machine ρ} (hw : m.WaitsInRange) {c : Command}
    {o : Outcome LoadError Unit (Machine ρ)} (h : m.Obeys c o) : m.obey c = .ok o :=
  obey_eq_of_obeys (fun _ ↦ hw) h

/-- A command leaves no wait for a register that does not exist. -/
theorem WaitsInRange.obeys {m : Machine ρ} (hw : m.WaitsInRange) {c : Command}
    {o : Outcome LoadError Unit (Machine ρ)} (h : m.Obeys c o) : o.state.WaitsInRange := by
  induction h with
  | tooLarge _ | unread _ | stuck _ _ | unhalted _ | ticked | noKey _ | keySet _ | keysSet =>
    exact hw
  | read _ _ ih => exact ih
  | cycled hc => exact hw.cycles hc
  | loaded _ | resumed _ =>
    intro x hx
    cases hx

/-- Any number of commands have a history, and leave no wait for a register that does not exist. -/
theorem WaitsInRange.history {m : Machine ρ} (hw : m.WaitsInRange) (commands : List Command) :
    ∃ past, m.history commands = .ok past ∧ past.state.WaitsInRange := by
  apply exists_history (P := WaitsInRange) ?_ hw
  intro m hw c
  obtain ⟨o, ho⟩ := exists_obeys m c
  exact ⟨o, obey_of_obeys hw ho, hw.obeys ho⟩

/-- What every case of `Obeys` keeps holds after any number of commands. -/
theorem exists_history_of_obeys {P : Machine ρ → Prop}
    (keep : ∀ m, P m → ∀ c o, m.Obeys c o → P o.state) {m : Machine ρ} (hw : m.WaitsInRange)
    (h : P m) (commands : List Command) :
    ∃ past, m.history commands = .ok past ∧ past.state.WaitsInRange ∧ P past.state := by
  apply exists_history (P := fun m ↦ m.WaitsInRange ∧ P m) ?_ ⟨hw, h⟩
  rintro m ⟨hw, h⟩ c
  obtain ⟨o, ho⟩ := exists_obeys m c
  exact ⟨o, obey_of_obeys hw ho, hw.obeys ho, keep m h c o ho⟩

end Machine
end Chip8
