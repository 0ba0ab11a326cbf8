import Chip8.Machine.Command
import Chip8.Proofs.Transition

/-!
# Histories

The machine after a load, histories command by command, and the induction over them: a property
that every command keeps holds after all of them.
-/

namespace Chip8.Machine

variable {ρ : Type}

/-- The machine after a program has been loaded into `memory`. -/
def reset (m : Machine ρ) (memory : Memory memorySize) : Machine ρ :=
  { m with
    memory
    registers := .powerOn
    stack := .empty
    timers := .zero
    screen := .blank
    phase := .running }

variable [RandomSource ρ]

/-- A history begins with what its first command gave. -/
theorem history_cons {m : Machine ρ} {c : Command} {commands : List Command}
    {o : Outcome LoadError Unit (Machine ρ)} {later : History (Machine ρ)}
    (ho : m.obey c = .ok o) (hl : o.state.history commands = .ok later) :
    m.history (c :: commands) =
      .ok ⟨o.result :: later.results, later.state, o.log ++ later.log⟩ := by
  simp only [history, ho, hl]

/-- Every cycle among some commands is asked of a machine with a property. -/
def EachCycle (m : Machine ρ) (P : Machine ρ → Prop) (commands : List Command) : Prop :=
  ∀ front back past, commands = front ++ .cycle :: back → m.history front = .ok past →
    P past.state

/-- Every cycle is asked of a machine with a property if the machine has it after each number of the
commands. -/
theorem eachCycle_of_take {m : Machine ρ} {P : Machine ρ → Prop} {commands : List Command}
    (h : ∀ k < commands.length, ∀ past, m.history (commands.take k) = .ok past → P past.state) :
    m.EachCycle P commands := by
  rintro front back past rfl hp
  apply h front.length
  · simp
  · rw [List.take_left]
    exact hp

/-- The first cycle is asked of the machine itself if it comes first, and the others of machines
after the first command. -/
theorem eachCycle_cons_iff {m : Machine ρ} {P : Machine ρ → Prop} {c : Command}
    {commands : List Command} {o : Outcome LoadError Unit (Machine ρ)} (ho : m.obey c = .ok o) :
    m.EachCycle P (c :: commands) ↔ (c = .cycle → P m) ∧ o.state.EachCycle P commands := by
  constructor
  · intro h
    refine ⟨?_, ?_⟩
    · rintro rfl
      exact h [] commands ⟨[], m, #[]⟩ rfl rfl
    · intro front back past he hp
      have hc : c :: commands = (c :: front) ++ .cycle :: back := by rw [he, List.cons_append]
      have hlater := h (c :: front) back _ hc (history_cons ho hp)
      exact hlater
  · rintro ⟨hfirst, hlater⟩ front back past he hp
    cases front with
    | nil =>
      cases he
      cases hp
      exact hfirst rfl
    | cons d front =>
      cases he
      cases hf : o.state.history front with
      | error u =>
        simp only [history, ho, hf] at hp
        cases hp
      | ok later =>
        rw [history_cons ho hf] at hp
        cases hp
        exact hlater front back later rfl hf

/-- A property that every command keeps holds after any number of them. -/
theorem exists_history {P : Machine ρ → Prop}
    (keep : ∀ m, P m → ∀ c, ∃ o, m.obey c = .ok o ∧ P o.state) {m : Machine ρ} (h : P m)
    (commands : List Command) : ∃ past, m.history commands = .ok past ∧ P past.state := by
  induction commands generalizing m with
  | nil => exact ⟨⟨[], m, #[]⟩, rfl, h⟩
  | cons c commands ih =>
    obtain ⟨o, ho, hs⟩ := keep m h c
    obtain ⟨past, hp, hps⟩ := ih hs
    refine ⟨⟨o.result :: past.results, past.state, o.log ++ past.log⟩, ?_, hps⟩
    simp only [history, ho, hp]

end Chip8.Machine
