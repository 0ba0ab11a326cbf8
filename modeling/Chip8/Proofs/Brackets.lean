import Chip8.Proofs.Commands

/-!
# Calls and returns

A ledger of pending returns is kept beside a run, from the instructions alone: a call adds the
address after it, unless sixteen calls are pending, and a return strikes out the newest. The call
stack of the machine is that ledger at every point of the run. So a return goes back to the word
after the call that it closes, whatever came in between.
-/

namespace Chip8

/-- The pending returns after an instruction, when `back` is the address after it. -/
def Instruction.account (i : Instruction) (back : UInt16) (pending : List UInt16) : List UInt16 :=
  match i with
  | .call _ => if pending.length < 16 then pending ++ [back] else pending
  | .ret => pending.dropLast
  | _ => pending

/-- Whether a command loads a program. -/
def Command.loads : Command → Bool
  | .load _ | .loadFrom _ => true
  | _ => false

namespace Instruction

variable {back : UInt16} {pending : List UInt16}

/-- A call is added to the ledger if there is room. -/
theorem account_call {addr : UInt16} :
    account (.call addr) back pending =
      if pending.length < 16 then pending ++ [back] else pending := rfl

/-- A return strikes the newest entry off the ledger. -/
theorem account_ret : account .ret back pending = pending.dropLast := rfl

end Instruction

namespace Machine

variable {ρ : Type}

/-- The pending returns after a command. -/
def pendingAfter (m : Machine ρ) (pending : List UInt16) : Command → List UInt16
  | .cycle =>
    match m.next? with
    | some i => i.account (m.registers.pc + 2) pending
    | none => pending
  | _ => pending

/-- The pending returns after commands. -/
def ledger [RandomSource ρ] (m : Machine ρ) (pending : List UInt16) : List Command → List UInt16
  | [] => pending
  | c :: commands =>
    match m.obey c with
    | .error _ => pending
    | .ok o => o.state.ledger (m.pendingAfter pending c) commands

/-! ### The stack and the ledger -/

/-- A machine refuses a call on a full stack, and nothing else for that reason. -/
theorem refusal_eq_stackOverflow_iff {m : Machine ρ} {i : Instruction} :
    m.refusal i = some .stackOverflow ↔ (∃ addr, i = .call addr) ∧ m.stack.depth = 16 := by
  constructor
  · intro h
    rcases refusal_cases h with ⟨_, _, _, hf⟩ | ⟨addr, hi, hd, _⟩ | ⟨_, _, hf⟩ | hf
    · cases hf
    · exact ⟨⟨addr, hi⟩, hd⟩
    · cases hf
    · cases hf
  · rintro ⟨⟨addr, rfl⟩, hd⟩
    rw [refusal_call, if_pos hd]

/-- A machine refuses a return on an empty stack, and nothing else for that reason. -/
theorem refusal_eq_stackUnderflow_iff {m : Machine ρ} {i : Instruction} :
    m.refusal i = some .stackUnderflow ↔ i = .ret ∧ m.stack.depth = 0 := by
  constructor
  · intro h
    rcases refusal_cases h with ⟨_, _, _, hf⟩ | ⟨_, _, _, hf⟩ | ⟨hi, hd, _⟩ | hf
    · cases hf
    · cases hf
    · exact ⟨hi, hd⟩
    · cases hf
  · rintro ⟨rfl, hd⟩
    rw [refusal_ret, if_pos hd]

/-- An instruction that is carried out does to the stack what it does to the ledger. -/
theorem toList_stackAfter {m : Machine ρ} {i : Instruction} (h : m.refusal i = none) :
    (m.stackAfter i).toList = i.account m.registers.pc m.stack.toList := by
  cases i with
  | call addr =>
    have hd : ¬ m.stack.depth = 16 := by
      intro hd
      rw [refusal_call, if_pos hd] at h
      cases h
    have hlt : m.stack.toList.length < 16 := by
      rw [m.stack.length_toList]
      exact Nat.lt_of_le_of_ne m.stack.depth_le hd
    rw [stackAfter_call, Instruction.account_call, if_pos hlt]
    split
    · next hp => exact CallStack.toList_push hp
    · next hp => exact absurd (CallStack.push_eq_error_iff.mp hp).1 hd
  | ret =>
    have hd : ¬ m.stack.depth = 0 := by
      intro hd
      rw [refusal_ret, if_pos hd] at h
      cases h
    rw [stackAfter_ret, Instruction.account_ret]
    split
    · next hp => rw [CallStack.toList_pop hp, List.dropLast_concat]
    · next hp => exact absurd (CallStack.pop_eq_error_iff.mp hp).1 hd
  | _ => rfl

/-- An instruction that is refused has no part in the ledger. -/
theorem account_of_refusal {m : Machine ρ} {i : Instruction} {f : Fault}
    (h : m.refusal i = some f) (back : UInt16) :
    i.account back m.stack.toList = m.stack.toList := by
  cases i with
  | call addr =>
    by_cases hd : m.stack.depth = 16
    · have hge : ¬ m.stack.toList.length < 16 := by
        rw [m.stack.length_toList, hd]
        exact Nat.lt_irrefl 16
      rw [Instruction.account_call, if_neg hge]
    · rw [refusal_call, if_neg hd] at h
      cases h
  | ret =>
    by_cases hd : m.stack.depth = 0
    · have hnil : m.stack.toList = [] := by
        rw [← List.length_eq_zero_iff, m.stack.length_toList, hd]
      rw [Instruction.account_ret, hnil, List.dropLast_nil]
    · rw [refusal_ret, if_neg hd] at h
      cases h
  | _ => rfl

private theorem load_fresh {m : Machine ρ} {program : List UInt8}
    (h : (m.load program).result = .ok ()) :
    (m.load program).state.WaitsInRange ∧ (m.load program).state.stack.toList = [] := by
  by_cases hs : maxProgramSize < program.length
  · rw [load_of_lt m hs] at h
    cases h
  · rw [load_of_le m (Nat.le_of_not_lt hs)]
    refine ⟨?_, CallStack.toList_empty⟩
    intro x hx
    cases hx

/-- An instruction keeps the entries below a height that the ledger does not fall to. -/
theorem take_account {i : Instruction} {back : UInt16} {pending : List UInt16} {n : Nat}
    (h : n < pending.length) (h' : n < (i.account back pending).length) :
    (i.account back pending).take (n + 1) = pending.take (n + 1) := by
  cases i with
  | call addr =>
    by_cases hlt : pending.length < 16
    · rw [Instruction.account_call, if_pos hlt]
      exact List.take_append_of_le_length h
    · rw [Instruction.account_call, if_neg hlt]
  | ret =>
    rw [Instruction.account_ret, List.length_dropLast] at h'
    have hle : n + 1 ≤ pending.length - 1 := h'
    rw [Instruction.account_ret, List.dropLast_eq_take, List.take_take, Nat.min_eq_left hle]
  | _ => rfl

/-- A command keeps the entries below a height that the ledger does not fall to. -/
theorem take_pendingAfter {m : Machine ρ} {pending : List UInt16} {c : Command} {n : Nat}
    (h : n < pending.length) (h' : n < (m.pendingAfter pending c).length) :
    (m.pendingAfter pending c).take (n + 1) = pending.take (n + 1) := by
  cases c with
  | cycle =>
    cases hi : m.next? with
    | none => simp only [pendingAfter, hi]
    | some i =>
      simp only [pendingAfter, hi] at h' ⊢
      exact take_account h h'
  | _ => rfl

variable [RandomSource ρ]

/-- A cycle does to the stack what it does to the ledger. -/
theorem toList_cycles {m : Machine ρ} {o : Outcome Fault Unit (Machine ρ)} (h : m.Cycles o) :
    o.state.stack.toList = m.pendingAfter m.stack.toList .cycle := by
  cases h with
  | again hp | idle hp _ => simp only [pendingAfter, next?, hp]
  | key hp _ =>
    simp only [pendingAfter, next?, hp]
    rfl
  | unfetched hp hr =>
    simp only [pendingAfter, next?, hp, hr]
    rfl
  | unread hp hr hi =>
    simp only [pendingAfter, next?, hp, hr, hi]
    rfl
  | refused hp hr hi href =>
    simp only [pendingAfter, next?_of_read hp hr hi]
    exact (account_of_refusal href _).symm
  | carriedOut hp hr hi href =>
    simp only [pendingAfter, next?_of_read hp hr hi]
    exact toList_stackAfter href

/-- A command that loads nothing does to the stack what it does to the ledger. -/
theorem toList_obeys {m : Machine ρ} {c : Command} {o : Outcome LoadError Unit (Machine ρ)}
    (h : m.Obeys c o) (hc : c.loads = false) :
    o.state.stack.toList = m.pendingAfter m.stack.toList c := by
  cases h with
  | cycled ho => exact toList_cycles ho
  | tooLarge _ | loaded _ | unread _ | read _ _ => cases hc
  | resumed _ | stuck _ _ | unhalted _ | ticked | noKey _ | keySet _ | keysSet => rfl

/-- The stack is the ledger after any commands that load nothing. -/
theorem toList_history {m : Machine ρ} (hw : m.WaitsInRange) {commands : List Command}
    (hc : ∀ c ∈ commands, c.loads = false) :
    ∃ past, m.history commands = .ok past ∧ past.state.WaitsInRange ∧
      past.state.stack.toList = m.ledger m.stack.toList commands := by
  induction commands generalizing m with
  | nil => exact ⟨_, rfl, hw, rfl⟩
  | cons c commands ih =>
    obtain ⟨o, h⟩ := exists_obeys m c
    have ho := obey_of_obeys hw h
    have hso := toList_obeys h (hc c List.mem_cons_self)
    obtain ⟨past, hp, hwp, hsp⟩ := ih (hw.obeys h) fun d hd ↦ hc d (List.mem_cons_of_mem c hd)
    refine ⟨⟨o.result :: past.results, past.state, o.log ++ past.log⟩, ?_, hwp, ?_⟩
    · simp only [history, ho, hp]
    · rw [hsp, hso]
      simp only [ledger, ho]

/-! ### What stays on the ledger -/

/-- Commands keep the entries below a height that the ledger does not fall to. -/
theorem take_ledger {m : Machine ρ} {pending : List UInt16} {commands : List Command} {n : Nat}
    (h : ∀ front, front <+: commands → n < (m.ledger pending front).length) :
    (m.ledger pending commands).take (n + 1) = pending.take (n + 1) := by
  induction commands generalizing m pending with
  | nil => rfl
  | cons c commands ih =>
    cases ho : m.obey c with
    | error u => simp only [ledger, ho]
    | ok o =>
      have hstep : ∀ front, m.ledger pending (c :: front) =
          o.state.ledger (m.pendingAfter pending c) front := by
        intro front
        simp only [ledger, ho]
      have hn : n < pending.length := h [] List.nil_prefix
      have hn' : n < (m.pendingAfter pending c).length := by
        have h1 := h [c] (List.prefix_append [c] commands)
        rw [hstep] at h1
        exact h1
      rw [hstep, ih, take_pendingAfter hn hn']
      intro front hf
      rw [← hstep]
      exact h (c :: front) (List.cons_prefix_cons.mpr ⟨rfl, hf⟩)

/-! ### The next cycle -/

/-- A running machine faults at its stack exactly as it refuses the next instruction. -/
theorem Cycles.stackFault_iff {m : Machine ρ} {o : Outcome Fault Unit (Machine ρ)}
    (h : m.Cycles o) (hp : m.phase = .running) {f : Fault}
    (hf : f = .stackOverflow ∨ f = .stackUnderflow) :
    o.result = .error f ↔ ∃ i, m.next? = some i ∧ m.past.refusal i = some f := by
  cases h with
  | again hp' | idle hp' _ | key hp' _ =>
    rw [hp] at hp'
    cases hp'
  | unfetched _ hr =>
    obtain ⟨_, rfl⟩ := Memory.readWord_eq_error_iff.mp hr
    have hn : m.next? = none := by simp only [next?, hp, hr]
    rw [hn]
    rcases hf with rfl | rfl
    · simp [stop, Memory.missing]
    · simp [stop, Memory.missing]
  | unread _ hr hi =>
    have hn : m.next? = none := by simp only [next?, hp, hr, hi]
    rw [hn]
    rcases hf with rfl | rfl
    · simp [stop]
    · simp [stop]
  | refused _ hr hi href =>
    rw [next?_of_read hp hr hi]
    simp [stop, href]
  | carriedOut _ hr hi href =>
    rw [next?_of_read hp hr hi]
    simp [href]

/-- A machine about to return takes up the newest pending address. -/
theorem Cycles.returns {m : Machine ρ} {o : Outcome Fault Unit (Machine ρ)} (h : m.Cycles o)
    (hi : m.next? = some .ret) {rest : List UInt16} {addr : UInt16}
    (hs : m.stack.toList = rest ++ [addr]) :
    o.result = .ok () ∧ o.state.registers.pc = addr ∧ o.state.stack.toList = rest := by
  have hd : ¬ m.past.stack.depth = 0 := by
    change ¬ m.stack.depth = 0
    rw [← m.stack.length_toList, hs]
    simp
  cases h with
  | again hp | idle hp _ | key hp _ =>
    simp only [next?, hp] at hi
    cases hi
  | unfetched hp hr =>
    simp only [next?, hp, hr] at hi
    cases hi
  | unread hp hr hn =>
    simp only [next?, hp, hr, hn] at hi
    cases hi
  | refused hp hr hn href =>
    rw [next?_of_read hp hr hn] at hi
    cases hi
    rw [refusal_ret, if_neg hd] at href
    cases href
  | carriedOut hp hr hn href =>
    rw [next?_of_read hp hr hn] at hi
    cases hi
    refine ⟨rfl, ?_⟩
    change m.past.pcAfter .ret = addr ∧ (m.past.stackAfter .ret).toList = rest
    rw [pcAfter_ret, stackAfter_ret]
    split
    · next hpop =>
      have hl := hs.symm.trans (CallStack.toList_pop hpop)
      obtain ⟨hrest, haddr⟩ := List.append_inj' hl rfl
      cases haddr
      exact ⟨rfl, hrest.symm⟩
    · next hpop => exact absurd (CallStack.pop_eq_error_iff.mp hpop).1 hd

/-- What is true of a machine whose pending returns are known. -/
structure Bracketed (m : Machine ρ) (pending : List UInt16) : Prop where
  /-- The slots in use are the ledger. -/
  stack : m.stack.toList = pending
  depth : m.stack.depth = pending.length
  depth_le : m.stack.depth ≤ 16
  total : ∃ o, m.cycle = .ok o
  /-- A running machine overflows exactly at a call when sixteen are pending. -/
  overflow : ∀ o, m.cycle = .ok o → m.phase = .running →
    (o.result = .error .stackOverflow ↔
      (∃ addr, m.next? = some (.call addr)) ∧ pending.length = 16)
  /-- A running machine underflows exactly at a return when none is pending. -/
  underflow : ∀ o, m.cycle = .ok o → m.phase = .running →
    (o.result = .error .stackUnderflow ↔ m.next? = some .ret ∧ pending = [])
  /-- Any other return goes to the newest entry. -/
  returns : ∀ o rest addr, m.cycle = .ok o → m.next? = some .ret → pending = rest ++ [addr] →
    o.result = .ok () ∧ o.state.registers.pc = addr ∧ o.state.stack.toList = rest

/-- A machine whose stack is the ledger is bracketed. -/
theorem bracketed {m : Machine ρ} (hw : m.WaitsInRange) : m.Bracketed m.stack.toList where
  stack := rfl
  depth := m.stack.length_toList.symm
  depth_le := m.stack.depth_le
  total := exists_cycle hw
  overflow := by
    intro o ho hp
    rw [((cycle_eq_ok_iff hw).mp ho).stackFault_iff hp (.inl rfl), m.stack.length_toList]
    constructor
    · rintro ⟨i, hi, hr⟩
      obtain ⟨⟨addr, rfl⟩, hd⟩ := refusal_eq_stackOverflow_iff.mp hr
      exact ⟨⟨addr, hi⟩, hd⟩
    · rintro ⟨⟨addr, hi⟩, hd⟩
      exact ⟨.call addr, hi, refusal_eq_stackOverflow_iff.mpr ⟨⟨addr, rfl⟩, hd⟩⟩
  underflow := by
    intro o ho hp
    rw [((cycle_eq_ok_iff hw).mp ho).stackFault_iff hp (.inr rfl), ← List.length_eq_zero_iff,
      m.stack.length_toList]
    constructor
    · rintro ⟨i, hi, hr⟩
      obtain ⟨rfl, hd⟩ := refusal_eq_stackUnderflow_iff.mp hr
      exact ⟨hi, hd⟩
    · rintro ⟨hi, hd⟩
      exact ⟨.ret, hi, refusal_eq_stackUnderflow_iff.mpr ⟨rfl, hd⟩⟩
  returns := fun o rest addr ho hi hs ↦ ((cycle_eq_ok_iff hw).mp ho).returns hi hs

/-! ### Calls and the returns that close them -/

/-- The next cycle is a call with room on the ledger, and after the commands that follow it the
machine is inside that call, at its own level: what was called in between has returned. -/
structure Encloses (m : Machine ρ) (pending : List UInt16) (between : List Command) : Prop where
  call : ∃ addr, m.next? = some (.call addr)
  room : pending.length < 16
  /-- At no point in between has the call been closed. -/
  inside : ∀ front, front <+: between →
    pending.length < (m.ledger pending (.cycle :: front)).length
  level : (m.ledger pending (.cycle :: between)).length = pending.length + 1

/-- Inside a call and at its own level, the newest entry is the address after the call. -/
theorem Encloses.ledger_eq {m : Machine ρ} (hw : m.WaitsInRange) {pending : List UInt16}
    {between : List Command} (h : m.Encloses pending between) :
    m.ledger pending (.cycle :: between) = pending ++ [m.registers.pc + 2] := by
  obtain ⟨addr, hi⟩ := h.call
  obtain ⟨o, hcycle⟩ := exists_obeys m .cycle
  have ho := obey_of_obeys hw hcycle
  have hstep : ∀ front, m.ledger pending (.cycle :: front) =
      o.state.ledger (pending ++ [m.registers.pc + 2]) front := by
    intro front
    simp only [ledger, ho, pendingAfter, hi, Instruction.account_call, if_pos h.room]
  have htake : (o.state.ledger (pending ++ [m.registers.pc + 2]) between).take
      (pending.length + 1) = (pending ++ [m.registers.pc + 2]).take (pending.length + 1) := by
    apply take_ledger
    intro front hf
    rw [← hstep]
    exact h.inside front hf
  rw [← hstep] at htake
  rw [List.take_of_length_le (Nat.le_of_eq h.level), List.take_of_length_le (by simp)] at htake
  exact htake

/-- After a program has been loaded, the stack is the ledger at every point of a run, the stack
faults are those of the ledger, and a return goes back to the word after the call that it closes,
leaving the returns that were pending before that call. -/
theorem history_bracketed {m : Machine ρ} {program : List UInt8}
    (hl : (m.load program).result = .ok ()) {commands : List Command}
    (hc : ∀ c ∈ commands, c.loads = false) :
    ∃ past, (m.load program).state.history commands = .ok past ∧
      past.state.Bracketed ((m.load program).state.ledger [] commands) ∧
      ∀ between, (∀ c ∈ between, c.loads = false) →
        past.state.Encloses ((m.load program).state.ledger [] commands) between →
        ∃ inner, past.state.history (.cycle :: between) = .ok inner ∧
          (inner.state.next? = some .ret →
            ∃ o, inner.state.cycle = .ok o ∧ o.result = .ok () ∧
              o.state.registers.pc = past.state.registers.pc + 2 ∧
              o.state.stack.toList = (m.load program).state.ledger [] commands) := by
  obtain ⟨hw, hs⟩ := load_fresh hl
  obtain ⟨past, hp, hwp, hsp⟩ := toList_history hw hc
  rw [hs] at hsp
  refine ⟨past, hp, hsp ▸ bracketed hwp, ?_⟩
  intro between hb he
  have hcycle : ∀ c ∈ Command.cycle :: between, c.loads = false := by
    intro c hmem
    rcases List.mem_cons.mp hmem with rfl | hmem
    · rfl
    · exact hb c hmem
  obtain ⟨inner, hin, hwin, hsin⟩ := toList_history hwp hcycle
  refine ⟨inner, hin, ?_⟩
  intro hret
  rw [hsp, he.ledger_eq hwp] at hsin
  obtain ⟨o, ho⟩ := exists_cycle hwin
  exact ⟨o, ho, ((cycle_eq_ok_iff hwin).mp ho).returns hret hsin⟩

/-- A program that calls `204`, from where it calls `20A`, which returns at once. -/
def nestedCalls : List UInt8 :=
  [0x22, 0x04, 0x12, 0x02, 0x22, 0x0A, 0x60, 0x01, 0x00, 0xEE, 0x00, 0xEE]

/-- A machine that is about to make the outer of the nested calls. -/
def aboutToCall : Machine Cyclic :=
  ((powerOn (Cyclic.ofList [0xA5]) .standard).load nestedCalls).state

/-- After four more commands the inner of the nested calls has returned and the outer has not. -/
theorem encloses_nestedCalls : aboutToCall.Encloses [] [.cycle, .tick, .cycle, .cycle] := by
  obtain ⟨hcall, hinside, hlevel⟩ :
      aboutToCall.next? = some (.call 0x204) ∧
        (∀ k < 5, 0 < (aboutToCall.ledger []
          (.cycle :: [Command.cycle, .tick, .cycle, .cycle].take k)).length) ∧
        (aboutToCall.ledger [] [.cycle, .cycle, .tick, .cycle, .cycle]).length = 1 := by
    decide +kernel
  refine ⟨⟨0x204, hcall⟩, by decide, ?_, hlevel⟩
  intro front hf
  rw [List.prefix_iff_eq_take.mp hf]
  exact hinside front.length (Nat.lt_succ_of_le hf.length_le)

/-- The next instruction returns from the outer call, to the word after it. -/
theorem history_bracketed_nestedCalls :
    ((powerOn (Cyclic.ofList [0xA5]) .standard).load nestedCalls).result = .ok () ∧
      ∃ inner, aboutToCall.history [.cycle, .cycle, .tick, .cycle, .cycle] = .ok inner ∧
        inner.state.next? = some .ret ∧
        ∃ o, inner.state.cycle = .ok o ∧ o.result = .ok () ∧
          o.state.registers.pc = 0x202 ∧ o.state.stack.toList = [] := by
  refine ⟨rfl, ?_⟩
  obtain ⟨past, hp, _, hb⟩ :=
    @history_bracketed Cyclic _ (powerOn (Cyclic.ofList [0xA5]) .standard) nestedCalls rfl []
      (by decide)
  cases hp
  obtain ⟨inner, hinner, hreturn⟩ := hb [.cycle, .tick, .cycle, .cycle] (by decide)
    encloses_nestedCalls
  have hin : aboutToCall.history [.cycle, .cycle, .tick, .cycle, .cycle] = .ok inner := hinner
  have hnext : (aboutToCall.history [.cycle, .cycle, .tick, .cycle, .cycle]).toOption.map
      (·.state.next?) = some (some .ret) := by
    decide +kernel
  rw [hin] at hnext
  have hret : inner.state.next? = some .ret := Option.some.inj hnext
  exact ⟨inner, hin, hret, hreturn hret⟩

end Machine
end Chip8
