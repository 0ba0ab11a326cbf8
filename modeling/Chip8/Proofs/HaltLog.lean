import Chip8.Proofs.Accounting
import Chip8.Proofs.Brackets
import Chip8.Terminal.Console

/-!
# What the log says of halts

Every halt of a machine leaves one line in the log. For each such line there is another that tells
of a resumption, or a program that was loaded into the halted machine, except for the last if the
machine is halted still. A host that passes over unknown opcodes says so as often as it resumes its
machine.
-/

namespace Chip8

/-! ### Remarks -/

/-- What a log can say of halts. -/
inductive Remark where
  /-- A machine halts. -/
  | halt
  /-- A machine that has halted is resumed. -/
  | resumption
  /-- A host passes over an unknown opcode. -/
  | skip
  deriving DecidableEq

namespace Remark

/-- The level of the line that makes a remark. -/
def level : Remark → Level
  | halt | skip => .warn
  | resumption => .debug

/-- The words in which the line that makes a remark begins. -/
def words : Remark → String
  | halt => "halted at "
  | resumption => "resuming past unknown opcode "
  | skip => "skipping unknown opcode "

/-- Whether the line of an event makes a remark. -/
def isIn (r : Remark) (e : Event) : Bool :=
  decide (e.level = r.level) && r.words.toList.isPrefixOf e.text.toList

/-- What an event has to say of halts, if anything. -/
def ofEvent? : Event → Option Remark
  | .halted _ _ => some halt
  | .resumed _ => some resumption
  | .skipped _ => some skip
  | _ => none

/-- How many lines of a log make a remark. -/
def count (r : Remark) (log : Log) : Nat := log.countP r.isIn

private theorem isIn_of_text {e : Event} (head : String) {rest : String}
    (h : e.text = head ++ rest) (r : Remark) :
    r.isIn e = (decide (e.level = r.level) &&
      r.words.toList.isPrefixOf (head.toList ++ rest.toList)) := by
  rw [isIn, h, String.toList_append]

private theorem append_three (a b c d : String) : a ++ b ++ c ++ d = a ++ (b ++ c ++ d) := by
  rw [String.append_assoc, String.append_assoc, String.append_assoc]

/-- The line of an event says what the event has to say, and nothing else of halts. -/
theorem isIn_eq (r : Remark) (e : Event) : r.isIn e = decide (ofEvent? e = some r) := by
  -- At one level it is the first words that tell the lines apart.
  cases e with
  | executing _ _ _ | ignoredSys _ | quit _ | notCharacter => cases r <;> rfl
  | loaded _ =>
    rw [isIn_of_text "loaded " String.append_assoc]
    cases r <;> rfl
  | keyTaken _ _ =>
    rw [isIn_of_text "key " (append_three _ _ _ _)]
    cases r <;> rfl
  | resumed _ =>
    rw [isIn_of_text "resuming past unknown opcode " rfl]
    cases r <;> rfl
  | halted _ _ =>
    rw [isIn_of_text "halted at " (append_three _ _ _ _)]
    cases r <;> rfl
  | skipped _ =>
    rw [isIn_of_text "skipping unknown opcode " rfl]
    cases r <;> rfl
  | unmapped _ =>
    rw [isIn_of_text "can't map " String.append_assoc]
    cases r <;> rfl

/-- The lines of a log that make a remark are as many as its events that have it to say. -/
theorem count_eq (r : Remark) (log : Log) :
    r.count log = log.countP fun e ↦ decide (ofEvent? e = some r) := by
  rw [count, funext r.isIn_eq]

/-- A remark is made in two logs, one after the other, as often as in both of them. -/
theorem count_append (r : Remark) (log log' : Log) :
    r.count (log ++ log') = r.count log + r.count log' := Array.countP_append

end Remark

/-- Whether a machine has halted. -/
def Phase.isHalted : Phase → Bool
  | .halted _ => true
  | .running | .waiting _ => false

/-- A machine has not halted if its phase is no halt at any fault. -/
theorem Phase.isHalted_eq_false {p : Phase} (h : ∀ f, p ≠ .halted f) : p.isHalted = false := by
  cases p with
  | halted f => exact absurd rfl (h f)
  | running | waiting _ => rfl

/-! ### Cycles -/

namespace Machine

variable {ρ : Type}

/-- Carrying out an instruction adds no remark on halts. -/
theorem count_executionLog (r : Remark) (m : Machine ρ) (i : Instruction) :
    r.count (m.executionLog i) = 0 := by
  rw [Remark.count_eq]
  unfold executionLog
  split
  · split <;> rfl
  · rfl

variable [RandomSource ρ]

/-- A cycle notes a halt if the machine was not halted before and is halted after it. -/
theorem Cycles.count_halt {m : Machine ρ} {o : Outcome Fault Unit (Machine ρ)} (h : m.Cycles o) :
    Remark.halt.count o.log + m.phase.isHalted.toNat = o.state.phase.isHalted.toNat := by
  cases h with
  | again _ | idle _ _ => exact Nat.zero_add _
  | key hp _ | unfetched hp _ | unread hp _ _ | refused hp _ _ _ =>
    rw [Remark.count_eq, hp]
    rfl
  | @carriedOut _ i hp _ _ _ =>
    have hphase : (m.past.effect i).phase.isHalted = false :=
      Phase.isHalted_eq_false (phaseAfter_ne_halted (m := m.past) hp i)
    rw [Remark.count_append, count_executionLog, Remark.count_eq, hp, hphase]
    rfl

/-- A cycle remarks on no resumption and on no unknown opcode passed over. -/
theorem Cycles.count_eq_zero {m : Machine ρ} {o : Outcome Fault Unit (Machine ρ)}
    (h : m.Cycles o) {r : Remark} (hr : r ≠ .halt) : r.count o.log = 0 := by
  have hnone : ∀ pc f, decide (Remark.ofEvent? (.halted pc f) = some r) = false := by
    intro pc f
    exact decide_eq_false fun he ↦ hr (Option.some.inj he).symm
  cases h with
  | carriedOut _ _ _ _ =>
    rw [Remark.count_append, count_executionLog, Remark.count_eq]
    rfl
  | again _ | idle _ _ | key _ _ =>
    rw [Remark.count_eq]
    rfl
  | unfetched _ _ | unread _ _ _ | refused _ _ _ _ =>
    rw [Remark.count_eq, stop, Array.countP_push, hnone]
    rfl

/-! ### Histories -/

/-- Whether a command has loaded a program into a machine that had halted. -/
def isReload (m : Machine ρ) (c : Command) (o : Outcome LoadError Unit (Machine ρ)) : Bool :=
  c.loads && m.phase.isHalted && o.result.isOk

/-- How many of some commands load a program into a machine that has halted. -/
def reloads (m : Machine ρ) : List Command → Nat
  | [] => 0
  | c :: commands =>
    match m.obey c with
    | .error _ => 0
    | .ok o => (m.isReload c o).toNat + o.state.reloads commands

/-- A halt that a command notes, or that the machine was in before it, is made good by a resumption,
by a program that the command loads, or by the machine being halted after it. -/
theorem Obeys.count_halt {m : Machine ρ} {c : Command} {o : Outcome LoadError Unit (Machine ρ)}
    (h : m.Obeys c o) :
    Remark.halt.count o.log + m.phase.isHalted.toNat =
      Remark.resumption.count o.log + (m.isReload c o).toNat + o.state.phase.isHalted.toNat := by
  induction h with
  | @cycled o hc =>
    have hr := hc.count_eq_zero (r := .resumption) (by decide)
    change Remark.halt.count o.log + _ =
      Remark.resumption.count o.log + 0 + o.state.phase.isHalted.toNat
    rw [hc.count_halt, hr, Nat.zero_add]
  | read _ _ ih => exact ih
  | loaded _ =>
    rw [Remark.count_eq, Remark.count_eq]
    change 0 + m.phase.isHalted.toNat = 0 + (m.phase.isHalted && true).toNat + 0
    rw [Bool.and_true]
    rfl
  | resumed hp =>
    rw [Remark.count_eq, Remark.count_eq, hp]
    rfl
  | tooLarge _ | unread _ =>
    change 0 + m.phase.isHalted.toNat =
      0 + (m.phase.isHalted && false).toNat + m.phase.isHalted.toNat
    rw [Bool.and_false]
    rfl
  | stuck _ _ | unhalted _ | ticked | noKey _ | keySet _ | keysSet => rfl

/-- The halts that a history notes, or that it began with, are made good by its resumptions, by the
programs that it loads, or by the machine being halted at its end. -/
theorem history_count_halt {m : Machine ρ} (hw : m.WaitsInRange) (commands : List Command) :
    ∃ past, m.history commands = .ok past ∧
      Remark.halt.count past.log + m.phase.isHalted.toNat =
        Remark.resumption.count past.log + m.reloads commands +
          past.state.phase.isHalted.toNat := by
  induction commands generalizing m with
  | nil => exact ⟨⟨[], m, #[]⟩, rfl, rfl⟩
  | cons c commands ih =>
    obtain ⟨o, ho⟩ := exists_obeys m c
    have hobey := obey_of_obeys hw ho
    obtain ⟨later, hl, hlater⟩ := ih (hw.obeys ho)
    refine ⟨_, history_cons hobey hl, ?_⟩
    have hfirst := ho.count_halt
    simp only [reloads, hobey, Remark.count_append]
    omega

/-- A cycle of a machine that has halted notes nothing. -/
theorem obey_cycle_of_halted {m : Machine ρ} {f : Fault} (h : m.phase = .halted f) :
    m.obey .cycle = .ok ⟨.error (.fault f), m, #[]⟩ := by
  simp only [obey, cycle, h]
  rfl

/-! ### Hosts -/

/-- A cycle under a host passes over an unknown opcode as often as it resumes the machine. -/
theorem count_skip_cycleSkipping {m : Machine ρ} {o : Outcome Fault Unit (Machine ρ)}
    (h : m.cycleSkipping = .ok o) :
    Remark.skip.count o.log = Remark.resumption.count o.log := by
  unfold cycleSkipping at h
  split at h
  · cases h
  · next p hc =>
    have hp := cycles_of_cycle hc
    have hs := hp.count_eq_zero (r := .skip) (by decide)
    have hr := hp.count_eq_zero (r := .resumption) (by decide)
    split at h
    · next word hword =>
      cases h
      rw [resume_of_unknownOpcode (hp.halted hword), Array.push_eq_append, Remark.count_append,
        Remark.count_append, Remark.count_append, Remark.count_append, hs, hr]
      simp only [Remark.count_eq]
      rfl
    · cases h
      rw [hr, hs]

/-- Any number of cycles under a host pass over unknown opcodes as often as they resume the machine,
beyond what has been noted before. -/
theorem count_skip_spend {n : Nat} {m : Machine ρ} {log : Log}
    {o : Outcome Fault Unit (Machine ρ)} (h : spend n m log = .ok o) :
    Remark.skip.count o.log + Remark.resumption.count log =
      Remark.resumption.count o.log + Remark.skip.count log := by
  induction n generalizing m log with
  | zero =>
    cases h
    exact Nat.add_comm _ _
  | succ n ih =>
    unfold spend at h
    split at h
    · cases h
    · next p hc =>
      have hp := count_skip_cycleSkipping hc
      split at h
      · cases h
        simp only [Remark.count_append]
        omega
      · have hrest := ih h
        simp only [Remark.count_append] at hrest
        omega

end Machine

namespace Host

variable {ρ ι δ β : Type}

/-- Showing a frame notes nothing and leaves the input alone. -/
theorem present_keeps [Display δ] [Buzzer β] (h : Host ρ ι δ β) (log : Log) :
    (h.present log).log = log ∧ (h.present log).state.input = h.input := by
  unfold present
  split
  · exact ⟨rfl, rfl⟩
  · split <;> exact ⟨rfl, rfl⟩

variable [RandomSource ρ] [Input ι] [Display δ] [Buzzer β]

/-- A frame passes over an unknown opcode as often as it resumes its machine, beyond what its scan
notes, and does nothing else to its input. -/
theorem count_skip_frame {h : Host ρ ι δ β} {o : Outcome HostError FrameEnd (Host ρ ι δ β)}
    (ho : h.frame = .ok o) :
    Remark.skip.count o.log + Remark.resumption.count (Input.scan h.input).log =
        Remark.resumption.count o.log + Remark.skip.count (Input.scan h.input).log ∧
      o.state.input = (Input.scan h.input).input := by
  unfold frame at ho
  simp only at ho
  split at ho
  · cases ho
    exact ⟨Nat.add_comm _ _, rfl⟩
  · cases ho
    exact ⟨Nat.add_comm _ _, rfl⟩
  · unfold play at ho
    split at ho
    · cases ho
    · next p hp =>
      have hspent := Machine.count_skip_spend hp
      split at ho
      · cases ho
        exact ⟨hspent, rfl⟩
      · cases ho
        obtain ⟨hlog, hinput⟩ := present_keeps
          { h with input := (Input.scan h.input).input, machine := p.state.tick } p.log
        rw [hlog, hinput]
        exact ⟨hspent, rfl⟩

/-- Any number of frames, whatever comes of them, pass over unknown opcodes as often as they resume
the machine, beyond what the input notes. -/
theorem count_skip_reel {n : Nat} {h : Host ρ ι δ β} {r : Reel (Host ρ ι δ β)}
    (hr : reel n h = .ok r) :
    Remark.skip.count r.log + Remark.resumption.count (Input.notes h.input n) =
      Remark.resumption.count r.log + Remark.skip.count (Input.notes h.input n) := by
  induction n generalizing h r with
  | zero =>
    cases hr
    rfl
  | succ n ih =>
    unfold reel at hr
    split at hr
    · cases hr
    · next o ho =>
      obtain ⟨hfirst, hinput⟩ := count_skip_frame ho
      split at hr
      · cases hr
      · next later hl =>
        cases hr
        have hlater := ih hl
        rw [hinput] at hlater
        simp only [Input.notes, Remark.count_append]
        omega

end Host

/-! ### Inputs -/

/-- An input whose scans say nothing of resumptions or of unknown opcodes. -/
def Input.Discreet {ι : Type} [Input ι] (input : ι) : Prop :=
  ∀ k, Remark.skip.count (scan (after input k)).log = 0 ∧
    Remark.resumption.count (scan (after input k)).log = 0

/-- Any number of scans of a discreet input say nothing of resumptions or of unknown opcodes. -/
theorem Input.Discreet.notes {ι : Type} [Input ι] {input : ι} (h : Discreet input) (n : Nat) :
    Remark.skip.count (Input.notes input n) = 0 ∧
      Remark.resumption.count (Input.notes input n) = 0 := by
  induction n with
  | zero => exact ⟨rfl, rfl⟩
  | succ n ih => simp [notes_succ, Remark.count_append, ih, h n]

/-- An input that always has the same keys is discreet. -/
theorem SteadyInput.discreet (input : SteadyInput) : Input.Discreet input :=
  fun _ ↦ ⟨rfl, rfl⟩

namespace Terminal

/-- A press is noted as one that stands for no key, if at all. -/
theorem Keyboard.count_press (r : Remark) (held : Vector Nat 16) (e : KeyEvent) :
    r.count (Keyboard.press held e).2 = 0 := by
  rw [Remark.count_eq]
  unfold Keyboard.press
  split
  · split <;> rfl
  · rfl
  · rfl

/-- Reading what has arrived adds no remark on halts. -/
theorem Keyboard.count_read (r : Remark) (arrivals : List (Except String Arrival))
    (held : Vector Nat 16) (log : Log) :
    r.count (Keyboard.read arrivals held log).log = r.count log := by
  fun_induction Keyboard.read arrivals held log with
  | case1 | case2 | case4 => rfl
  | case3 _ _ _ ih => exact ih
  | case5 e _ held log _ held' noted hpress ih =>
    have hnoted : r.count noted = 0 := by
      rw [← Keyboard.count_press r held e, hpress]
    rw [ih, Remark.count_append, hnoted, Nat.add_zero]

/-- A keyboard at the end of a line says nothing of halts, whatever is typed. -/
theorem Console.count_scan (r : Remark) (console : Console) : r.count console.scan.log = 0 := by
  have hbatch (c : Console) : c.scanBatch.log = c.keyboard.scan.log := by
    unfold Console.scanBatch
    simp only
    split <;> rfl
  unfold Console.scan
  split
  · rw [hbatch]
    exact Keyboard.count_read r _ _ #[]
  · rw [hbatch]
    exact Keyboard.count_read r _ _ #[]

/-- A keyboard at the end of a line is discreet. -/
theorem Console.discreet (console : Console) : Input.Discreet console := by
  intro k
  exact ⟨Console.count_scan .skip _, Console.count_scan .resumption _⟩

end Terminal

/-! ### All of it -/

/-- In any history since power on there are as many halts in the log as resumptions, programs
loaded into the halted machine and, if it is halted now, one more; a cycle of a halted machine adds
no line. In any frames of a host, beyond what the input notes itself, as many unknown opcodes are
passed over as there are resumptions. -/
theorem halts_accounted {ρ ι δ β : Type} [RandomSource ρ] [Input ι] [Display δ] [Buzzer β] :
    (∀ (random : ρ) (dialect : Dialect) (commands : List Command),
      ∃ past, (Machine.powerOn random dialect).history commands = .ok past ∧
        Remark.halt.count past.log =
          Remark.resumption.count past.log + (Machine.powerOn random dialect).reloads commands +
            if past.state.phase.isHalted then 1 else 0) ∧
    (∀ (m : Machine ρ) (f : Fault), m.phase = .halted f →
      m.obey .cycle = .ok ⟨.error (.fault f), m, #[]⟩) ∧
    ∀ (h : Host ρ ι δ β) (n : Nat),
      (h.machine.WaitsInRange → ∃ r, Host.reel n h = .ok r) ∧
      ∀ r, Host.reel n h = .ok r →
        Remark.skip.count r.log + Remark.resumption.count (Input.notes h.input n) =
            Remark.resumption.count r.log + Remark.skip.count (Input.notes h.input n) ∧
          (Input.Discreet h.input → Remark.skip.count r.log = Remark.resumption.count r.log) := by
  refine ⟨?_, fun m f ↦ Machine.obey_cycle_of_halted, ?_⟩
  · intro random dialect commands
    obtain ⟨past, hp, hlines⟩ := Machine.history_count_halt
      (Machine.waitsInRange_of_running (m := Machine.powerOn random dialect) rfl) commands
    refine ⟨past, hp, ?_⟩
    refine hlines.trans (congrArg _ ?_)
    cases past.state.phase.isHalted <;> rfl
  · intro h n
    refine ⟨fun hw ↦ Host.exists_reel hw n, ?_⟩
    intro r hr
    have hlines := Host.count_skip_reel hr
    refine ⟨hlines, ?_⟩
    intro hd
    obtain ⟨hs, hr⟩ := hd.notes n
    omega

/-- A word that stands for no instruction, and a jump back to it. -/
def unknownLoop : List UInt8 := [0xFF, 0xFF, 0x12, 0x00]

/-- A machine halts, is asked for another cycle, is loaded again, halts, is resumed, jumps back and
halts. -/
def haltingThrice : List Command :=
  [.load unknownLoop, .cycle, .cycle, .load unknownLoop, .cycle, .resume, .cycle, .cycle]

/-- A host whose machine has halted at the word before its first frame. -/
def haltedBefore : Host Cyclic SteadyInput CountingDisplay SilentBuzzer where
  machine :=
    { Machine.powerOn (Cyclic.ofList []) .standard with
      memory := Memory.powerOn.put 0x200 unknownLoop
      registers := { Registers.powerOn with pc := 0x202 }
      phase := .halted (.unknownOpcode 0xFFFF) }
  input := ⟨.released⟩
  display := ⟨0, none⟩
  buzzer := .quiet
  cyclesPerFrame := 3

/-- A history with three halts, and two frames of a host, every other cycle of which passes over the
unknown opcode. -/
theorem halts_accounted_unknownLoop :
    (∃ past, (Machine.powerOn (Cyclic.ofList []) .standard).history haltingThrice = .ok past ∧
      Remark.halt.count past.log = 3 ∧
      Remark.halt.count past.log =
        Remark.resumption.count past.log +
          (Machine.powerOn (Cyclic.ofList []) .standard).reloads haltingThrice +
          if past.state.phase.isHalted then 1 else 0) ∧
      haltedBefore.machine.phase = .halted (.unknownOpcode 0xFFFF) ∧
      haltedBefore.machine.WaitsInRange ∧ Input.Discreet haltedBefore.input ∧
      ∃ r, Host.reel 2 haltedBefore = .ok r ∧ Remark.skip.count r.log = 3 ∧
        Remark.skip.count r.log = Remark.resumption.count r.log := by
  obtain ⟨hhistory, -, hframes⟩ := halts_accounted (ρ := Cyclic) (ι := SteadyInput)
    (δ := CountingDisplay) (β := SilentBuzzer)
  have hw : haltedBefore.machine.WaitsInRange := by
    intro x hx
    cases hx
  refine ⟨?_, rfl, hw, SteadyInput.discreet _, ?_⟩
  · obtain ⟨past, hp, hlines⟩ := hhistory (Cyclic.ofList []) .standard haltingThrice
    have hcount : ((Machine.powerOn (Cyclic.ofList []) .standard).history
        haltingThrice).toOption.map (Remark.halt.count ·.log) = some 3 := by
      decide +kernel
    rw [hp] at hcount
    exact ⟨past, hp, Option.some.inj hcount, hlines⟩
  · obtain ⟨hexists, hlines⟩ := hframes haltedBefore 2
    obtain ⟨r, hr⟩ := hexists hw
    have hcount : (Host.reel 2 haltedBefore).toOption.map (Remark.skip.count ·.log) =
        some 3 := by
      decide +kernel
    rw [hr] at hcount
    exact ⟨r, hr, Option.some.inj hcount,
      (hlines r hr).2 (SteadyInput.discreet _)⟩

end Chip8
