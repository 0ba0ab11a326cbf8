import Chip8.Proofs.Commands

/-!
# Two clocks

A host drives a machine by two clocks, one for cycles and one for ticks of the timers. Apart from
the three instructions that read or set a timer, neither clock can tell how far the other has
gone: cycles and ticks may come in any order.

A cycle and a tick that follow each other can change places, and any order can be reached from any
other by changing places.
-/

namespace Chip8

/-- An instruction reads or sets a timer. -/
def Instruction.UsesTimers : Instruction → Prop
  | .readDelay _ | .setDelay _ | .setSound _ => True
  | _ => False

/-- Whether a command asks for a cycle. -/
def Command.isCycle : Command → Bool
  | .cycle => true
  | _ => false

/-- The results that the cycles among some commands gave, in order. -/
def History.cycleResults {σ : Type} (h : History σ) (commands : List Command) :
    List (Except LoadError Unit) :=
  ((commands.zip h.results).filter fun p ↦ p.1.isCycle).map Prod.snd

namespace Machine

variable {ρ : Type}

/-- The next instruction reads or sets a timer. -/
def NextUsesTimers (m : Machine ρ) : Prop := ∃ i, m.next? = some i ∧ i.UsesTimers

/-! ### One cycle and one tick -/

variable [RandomSource ρ]

/-- An instruction that does not use the timers has the same effect before a tick and after. -/
theorem effect_tick (m : Machine ρ) {i : Instruction} (h : ¬ i.UsesTimers) :
    m.tick.effect i = (m.effect i).tick := by
  cases i with
  | readDelay _ | setDelay _ | setSound _ => exact absurd trivial h
  | _ => rfl

/-- A cycle that does not use the timers has the same outcome before a tick and after. -/
theorem Cycles.tick {m : Machine ρ} {o : Outcome Fault Unit (Machine ρ)} (h : m.Cycles o)
    (hu : ¬ m.NextUsesTimers) : m.tick.Cycles ⟨o.result, o.state.tick, o.log⟩ := by
  cases h with
  | again hp => exact .again (m := m.tick) hp
  | idle hp hk => exact .idle (m := m.tick) hp hk
  | key hp hk => exact .key (m := m.tick) hp hk
  | unfetched hp hf => exact .unfetched (m := m.tick) hp hf
  | unread hp hf hi => exact .unread (m := m.tick) hp hf hi
  | refused hp hf hi hr => exact .refused (m := m.tick) hp hf hi hr
  | @carriedOut _ i hp hf hi hr =>
    have hn : ¬ i.UsesTimers := fun h ↦ hu ⟨i, next?_of_read hp hf hi, h⟩
    have hc := Cycles.carriedOut (m := m.tick) hp hf hi hr
    rw [show m.tick.past.effect i = (m.past.effect i).tick from effect_tick m.past hn] at hc
    exact hc

/-! ### Many of both -/

/-- Two lists of commands end in the same machine with the same events, and their cycles have the
same results. -/
def SameHistory (m : Machine ρ) (commands others : List Command) : Prop :=
  ∃ past past', m.history commands = .ok past ∧ m.history others = .ok past' ∧
    past'.state = past.state ∧ past'.log = past.log ∧
    past'.cycleResults others = past.cycleResults commands

namespace SameHistory

variable {m : Machine ρ} {commands others third : List Command}

private theorem symm (h : m.SameHistory commands others) : m.SameHistory others commands := by
  obtain ⟨past, past', hp, hp', hs, hl, hr⟩ := h
  exact ⟨past', past, hp', hp, hs.symm, hl.symm, hr.symm⟩

private theorem trans (h : m.SameHistory commands others) (h' : m.SameHistory others third) :
    m.SameHistory commands third := by
  obtain ⟨past, mid, hp, hm, hs, hl, hr⟩ := h
  obtain ⟨mid', past', hm', hp', hs', hl', hr'⟩ := h'
  cases hm.symm.trans hm'
  exact ⟨past, past', hp, hp', hs'.trans hs, hl'.trans hl, hr'.trans hr⟩

private theorem refl (hw : m.WaitsInRange) (commands : List Command) :
    m.SameHistory commands commands := by
  obtain ⟨past, hp, _⟩ := hw.history commands
  exact ⟨past, past, hp, hp, rfl, rfl, rfl⟩

private theorem cons {c : Command} {o : Outcome LoadError Unit (Machine ρ)}
    (ho : m.obey c = .ok o) (h : o.state.SameHistory commands others) :
    m.SameHistory (c :: commands) (c :: others) := by
  obtain ⟨past, past', hp, hp', hs, hl, hr⟩ := h
  refine ⟨_, _, history_cons ho hp, history_cons ho hp', hs, ?_, ?_⟩
  · simp only [hl]
  · simp only [History.cycleResults, List.zip_cons_cons, List.filter_cons] at hr ⊢
    split
    · simp only [List.map_cons, hr]
    · exact hr

end SameHistory

/-- No cycle among some commands carries out an instruction that uses the timers. -/
def TimersUnused (m : Machine ρ) (commands : List Command) : Prop :=
  m.EachCycle (fun reached ↦ ¬ reached.NextUsesTimers) commands

private theorem cycle_tick_swap {m : Machine ρ} (hw : m.WaitsInRange) (hu : ¬ m.NextUsesTimers)
    (commands : List Command) :
    m.SameHistory (.cycle :: .tick :: commands) (.tick :: .cycle :: commands) ∧
      (m.TimersUnused (.cycle :: .tick :: commands) ↔
        m.TimersUnused (.tick :: .cycle :: commands)) := by
  obtain ⟨o, hc⟩ := exists_cycles m
  -- The two ways to the machine after both, which the rest goes on from.
  have hcycle : m.obey .cycle = .ok o.asLoad := obey_of_obeys hw (.cycled hc)
  have htick : o.asLoad.state.obey .tick = .ok ⟨.ok (), o.state.tick, #[]⟩ := rfl
  have htick' : m.obey .tick = .ok ⟨.ok (), m.tick, #[]⟩ := rfl
  have hcycle' : m.tick.obey .cycle =
      .ok (Outcome.asLoad ⟨o.result, o.state.tick, o.log⟩) :=
    obey_of_obeys (m := m.tick) hw (.cycled (hc.tick hu))
  have hw' : o.state.tick.WaitsInRange := hw.cycles hc
  obtain ⟨later, hl, _⟩ := hw'.history commands
  constructor
  · refine ⟨_, _, history_cons hcycle (history_cons htick hl),
      history_cons htick' (history_cons hcycle' hl), rfl, ?_, rfl⟩
    simp [Outcome.asLoad]
  · have hu' : ¬ m.tick.NextUsesTimers := hu
    rw [TimersUnused, TimersUnused, eachCycle_cons_iff hcycle, eachCycle_cons_iff htick,
      eachCycle_cons_iff htick', eachCycle_cons_iff hcycle']
    simp [hu, hu', Outcome.asLoad]

private theorem swap {m : Machine ρ} (hw : m.WaitsInRange) {c d : Command}
    {commands : List Command} (hc : c = .cycle ∨ c = .tick) (hd : d = .cycle ∨ d = .tick)
    (hu : m.TimersUnused (c :: d :: commands)) :
    m.SameHistory (c :: d :: commands) (d :: c :: commands) ∧
      m.TimersUnused (d :: c :: commands) := by
  rcases hc with rfl | rfl
  · rcases hd with rfl | rfl
    · exact ⟨.refl hw _, hu⟩
    · have hn : ¬ m.NextUsesTimers := hu [] _ ⟨[], m, #[]⟩ rfl rfl
      obtain ⟨hs, hiff⟩ := cycle_tick_swap hw hn commands
      exact ⟨hs, hiff.mp hu⟩
  · rcases hd with rfl | rfl
    · have hn : ¬ m.NextUsesTimers := hu [.tick] _ ⟨[.ok ()], m.tick, #[]⟩ rfl rfl
      obtain ⟨hs, hiff⟩ := cycle_tick_swap hw hn commands
      exact ⟨hs.symm, hiff.mpr hu⟩
    · exact ⟨.refl hw _, hu⟩

/-- Cycles and ticks may come in any order, as long as the cycles do not use the timers. -/
theorem sameHistory_of_perm {commands others : List Command} (hp : commands.Perm others)
    {m : Machine ρ} (hw : m.WaitsInRange) (hc : ∀ c ∈ commands, c = .cycle ∨ c = .tick)
    (hu : m.TimersUnused commands) : m.SameHistory commands others ∧ m.TimersUnused others := by
  induction hp generalizing m with
  | nil => exact ⟨.refl hw _, hu⟩
  | cons c _ ih =>
    obtain ⟨o, hob⟩ := exists_obeys m c
    have ho := obey_of_obeys hw hob
    obtain ⟨hfirst, hlater⟩ := (eachCycle_cons_iff ho).mp hu
    obtain ⟨hs, hu'⟩ := ih (hw.obeys hob) (fun d hd ↦ hc d (List.mem_cons_of_mem c hd)) hlater
    exact ⟨hs.cons ho, (eachCycle_cons_iff ho).mpr ⟨hfirst, hu'⟩⟩
  | swap d c commands => exact swap hw (hc c (by simp)) (hc d (by simp)) hu
  | trans hp _ ih ih' =>
    obtain ⟨hs, hu'⟩ := ih hw hc hu
    obtain ⟨hs', hu''⟩ := ih' hw (fun c hm ↦ hc c (hp.mem_iff.mpr hm)) hu'
    exact ⟨hs.trans hs', hu''⟩

/-- Any two orders of as many cycles and as many ticks give the cycles the same results, note the
same events and end in the same machine, if no cycle of the first carries out an instruction that
reads or sets a timer. -/
theorem clocks_independent {m : Machine ρ} (hw : m.WaitsInRange) {commands others : List Command}
    (hc : ∀ c ∈ commands, c = .cycle ∨ c = .tick) (hp : commands.Perm others)
    (hu : m.TimersUnused commands) :
    ∃ past past', m.history commands = .ok past ∧ m.history others = .ok past' ∧
      past'.state = past.state ∧ past'.log = past.log ∧
      past'.cycleResults others = past.cycleResults commands :=
  (sameHistory_of_perm hp hw hc hu).1

/-- A machine that adds one to V0, halts at a return from no call, and has both timers running. -/
def overrunning : Machine Cyclic :=
  { powerOn (Cyclic.ofList [0xA5]) .standard with
    memory := Memory.powerOn.put 0x200 [0x70, 0x01, 0x00, 0xEE]
    timers := ⟨3, 1⟩ }

/-- Three cycles and then two ticks. -/
def cyclesFirst : List Command := [.cycle, .cycle, .cycle, .tick, .tick]

/-- Two ticks and then three cycles. -/
def ticksFirst : List Command := [.tick, .tick, .cycle, .cycle, .cycle]

private theorem timersUnused_overrunning : overrunning.TimersUnused cyclesFirst := by
  have hnext : ∀ k < cyclesFirst.length,
      (overrunning.history (cyclesFirst.take k)).toOption.bind (fun past ↦ past.state.next?) ∈
        [none, some (.addByte 0 1), some .ret] := by
    decide +kernel
  apply eachCycle_of_take
  rintro k hk past hp ⟨i, hi, hu⟩
  have hmem := hnext k hk
  rw [hp] at hmem
  change past.state.next? ∈ _ at hmem
  rw [hi] at hmem
  simp only [List.mem_cons, reduceCtorEq, Option.some.injEq, List.not_mem_nil, or_false,
    false_or] at hmem
  rcases hmem with rfl | rfl
  · exact hu
  · exact hu

/-- It makes no difference to the overrunning machine if both ticks come first. -/
theorem clocks_independent_overrunning :
    overrunning.WaitsInRange ∧ (∀ c ∈ cyclesFirst, c = .cycle ∨ c = .tick) ∧
      cyclesFirst.Perm ticksFirst ∧ overrunning.TimersUnused cyclesFirst ∧
      ∃ past past', overrunning.history cyclesFirst = .ok past ∧
        overrunning.history ticksFirst = .ok past' ∧
        past'.state = past.state ∧ past'.log = past.log ∧
        past'.cycleResults ticksFirst = past.cycleResults cyclesFirst := by
  have hw : overrunning.WaitsInRange := by
    intro x hx
    cases hx
  have hc : ∀ c ∈ cyclesFirst, c = .cycle ∨ c = .tick := by simp [cyclesFirst]
  have hp : cyclesFirst.Perm ticksFirst :=
    @List.perm_append_comm Command [.cycle, .cycle, .cycle] [.tick, .tick]
  exact ⟨hw, hc, hp, timersUnused_overrunning,
    clocks_independent hw hc hp timersUnused_overrunning⟩

end Machine
end Chip8
