import Chip8.Proofs.Halting

/-!
# Waiting for a key

A machine that waits for a key is left alone by every cycle that finds none down. The first cycle
that finds one takes the lowest and lets the machine run, and a skip that comes next and asks for
this key sees it down.
-/

namespace Chip8

/-! ### The lowest key -/

namespace Keypad

variable {k : Keypad} {key : Fin 16}

/-- Some key is down. -/
def AnyDown (k : Keypad) : Prop := ∃ key : Fin 16, k.keys.get key = true

/-- A key is down, and no lower one is. -/
structure Lowest (k : Keypad) (key : Fin 16) : Prop where
  down : k.keys.get key = true
  least : ∀ lower < key, k.keys.get lower = false

private theorem firstDown_eq (k : Keypad) :
    k.firstDown = (List.finRange 16).find? k.keys.get := rfl

/-- A search finds the lowest key. -/
theorem firstDown_eq_some_iff : k.firstDown = some key ↔ k.Lowest key := by
  rw [firstDown_eq, List.find?_eq_some_iff_getElem]
  constructor
  · rintro ⟨hdown, i, hi, hkey, hless⟩
    rw [List.getElem_finRange] at hkey
    subst hkey
    refine ⟨hdown, ?_⟩
    intro lower hl
    have hup := hless lower.val hl
    simpa using hup
  · rintro ⟨hdown, hleast⟩
    refine ⟨hdown, key.val, by simp, by simp, ?_⟩
    intro j hj
    have hup := hleast ⟨j, Nat.lt_trans hj key.isLt⟩ hj
    simpa using hup

/-- A search fails if no key is down. -/
theorem firstDown_eq_none_iff : k.firstDown = none ↔ ¬ k.AnyDown := by
  rw [firstDown_eq, List.find?_eq_none]
  simp [AnyDown]

/-- A key is down for an instruction that names it by its number. -/
theorem Lowest.isDown (h : k.Lowest key) : k.isDown (UInt8.ofNat key.val) = true := by
  have hk : (UInt8.ofNat key.val).toNat % 16 = key.val := by
    rw [UInt8.toNat_ofNat']
    omega
  simp only [Keypad.isDown, hk]
  exact h.down

end Keypad

/-! ### Commands -/

/-- A command that a host gives while a program runs. -/
def Command.Drives : Command → Prop
  | .cycle | .tick | .setKey _ _ | .setKeys _ => True
  | .load _ | .loadFrom _ | .resume => False

/-- A command between two cycles that writes no key: a tick, or a key that does not exist. -/
def Command.LeavesKeys : Command → Prop
  | .tick => True
  | .setKey key _ => 16 ≤ key
  | .load _ | .loadFrom _ | .cycle | .resume | .setKeys _ => False

namespace Machine

variable {ρ : Type} [RandomSource ρ] {m : Machine ρ} {x : UInt8}

/-- A key that does not exist is refused, and nothing changes. -/
theorem obey_setKey_of_le (m : Machine ρ) {key : Nat} (down : Bool) (h : 16 ≤ key) :
    m.obey (.setKey key down) = .ok ⟨.error (.fault (.invalidKey key)), m, #[]⟩ := by
  have hs : m.keypad.set key down = .error (.invalidKey key) := by
    rw [Keypad.set, dif_neg (Nat.not_lt.mpr h)]
  simp only [obey, setKey, hs]

/-! ### Staying -/

/-- What a machine that waits for a key makes of a command that ends no wait. -/
structure StaysWaiting (m : Machine ρ) (x : UInt8) (c : Command)
    (o : Outcome LoadError Unit (Machine ρ)) : Prop where
  phase : o.state.phase = .waiting x
  frozen : m.Frozen o.state
  /-- A cycle reports no fault. -/
  passed : c = .cycle → o.result = .ok ()

/-- A command leaves a machine waiting unless it is a cycle that finds a key down. -/
theorem Obeys.staysWaiting {c : Command} {o : Outcome LoadError Unit (Machine ρ)}
    (h : m.Obeys c o) (hp : m.phase = .waiting x) (hc : c.Drives)
    (hk : c = .cycle → ¬ m.keypad.AnyDown) : m.StaysWaiting x c o := by
  cases h with
  | tooLarge _ | loaded _ | unread _ | read _ _ | resumed _ | stuck _ _ | unhalted _ => cases hc
  | noKey _ | ticked | keySet _ | keysSet => exact ⟨hp, ⟨_, _, rfl⟩, by simp⟩
  | cycled ho =>
    cases ho with
    | idle _ _ => exact ⟨hp, ⟨_, _, rfl⟩, fun _ ↦ rfl⟩
    | key _ hd => exact absurd ⟨_, (Keypad.firstDown_eq_some_iff.mp hd).down⟩ (hk rfl)
    | again hp' | unfetched hp' _ | unread hp' _ _ | refused hp' _ _ _ | carriedOut hp' _ _ _ =>
      cases hp.symm.trans hp'

/-- Any number of commands leave a machine waiting if no cycle among them finds a key down. -/
theorem history_staysWaiting (hp : m.phase = .waiting x) (hx : x < 16) {commands : List Command}
    (hc : ∀ c ∈ commands, c.Drives)
    (hk : m.EachCycle (fun reached ↦ ¬ reached.keypad.AnyDown) commands) :
    ∃ past, m.history commands = .ok past ∧ past.state.phase = .waiting x ∧
      m.Frozen past.state ∧
      ∀ i : Nat, commands[i]? = some .cycle → past.results[i]? = some (.ok ()) := by
  induction commands generalizing m with
  | nil => exact ⟨⟨[], m, #[]⟩, rfl, hp, ⟨_, _, rfl⟩, by simp⟩
  | cons c commands ih =>
    obtain ⟨o, hobeys⟩ := exists_obeys m c
    have ho : m.obey c = .ok o := obey_of_obeys (waitsInRange_of_waiting hp hx) hobeys
    obtain ⟨hfirst, hrest⟩ := (eachCycle_cons_iff ho).mp hk
    obtain ⟨hpo, ⟨timers, keypad, hso⟩, hro⟩ :=
      hobeys.staysWaiting hp (hc c List.mem_cons_self) hfirst
    obtain ⟨past, hl, hpl, ⟨timers', keypad', hsl⟩, hrl⟩ :=
      ih hpo (fun d hd ↦ hc d (List.mem_cons_of_mem c hd)) hrest
    refine ⟨_, history_cons ho hl, hpl, ⟨timers', keypad', ?_⟩, ?_⟩
    · rw [hsl, hso]
    · intro i hi
      cases i with
      | zero =>
        cases hi
        rw [List.getElem?_cons_zero, hro rfl]
      | succ i => exact hrl i hi

/-! ### Going on -/

/-- What a cycle makes of a machine that waits for register `x` while a key is down. -/
structure TakesKey (m : Machine ρ) (x : UInt8) (key : Fin 16)
    (o : Outcome Fault Unit (Machine ρ)) : Prop where
  lowest : m.keypad.Lowest key
  passed : o.result = .ok ()
  /-- The register gets the number of the key and the machine runs; nothing else changes. -/
  state : ∃ registers, m.registers.set x (UInt8.ofNat key.val) = .ok registers ∧
    o.state = { m with registers, phase := .running }

/-- A cycle that finds keys down takes the lowest of them. -/
theorem exists_takesKey (hp : m.phase = .waiting x) (hx : x < 16) (hk : m.keypad.AnyDown) :
    ∃ key o, m.cycle = .ok o ∧ m.TakesKey x key o := by
  obtain ⟨o, ho⟩ := exists_cycles m
  have hcycle : m.cycle = .ok o := cycle_of_cycles (waitsInRange_of_waiting hp hx) ho
  -- Of all that a cycle can do, only taking a key fits the phase and the keys.
  cases ho with
  | idle _ hd => exact absurd hk (Keypad.firstDown_eq_none_iff.mp hd)
  | key hp' hd =>
    cases hp.symm.trans hp'
    have hlow := Keypad.firstDown_eq_some_iff.mp hd
    exact ⟨_, _, hcycle, hlow, rfl, _, Registers.set_write hx, rfl⟩
  | again hp' | unfetched hp' _ | unread hp' _ _ | refused hp' _ _ _ | carriedOut hp' _ _ _ =>
    cases hp.symm.trans hp'

/-- Commands that write no key change nothing but the timers. -/
theorem history_leavesKeys {commands : List Command} (hc : ∀ c ∈ commands, c.LeavesKeys) :
    ∃ later, m.history commands = .ok later ∧ ∃ timers, later.state = { m with timers } := by
  induction commands generalizing m with
  | nil => exact ⟨⟨[], m, #[]⟩, rfl, m.timers, rfl⟩
  | cons c commands ih =>
    have hrest : ∀ d ∈ commands, d.LeavesKeys := fun d hd ↦ hc d (List.mem_cons_of_mem c hd)
    have hfirst : c.LeavesKeys := hc c List.mem_cons_self
    cases c with
    | tick =>
      obtain ⟨later, hl, timers, hs⟩ := ih (m := m.tick) hrest
      exact ⟨_, history_cons rfl hl, timers, hs⟩
    | setKey key down =>
      obtain ⟨later, hl, timers, hs⟩ := ih (m := m) hrest
      exact ⟨_, history_cons (obey_setKey_of_le m down hfirst) hl, timers, hs⟩
    | load _ | loadFrom _ | cycle | resume | setKeys _ => cases hfirst

/-! ### The skips that look at keys -/

/-- A cycle on a skip that looks at the key of register `x` sees it down. -/
structure SeesKeyDown (m : Machine ρ) (x : UInt8) : Prop where
  /-- The skip for a key that is down is taken. -/
  taken : m.memory.readWord m.registers.pc = .ok (Instruction.skipKeyDown x).encode →
    ∃ o, m.cycle = .ok o ∧ o.result = .ok () ∧ o.state = m.goto (m.registers.pc + 4)
  /-- The skip for a key that is up is not. -/
  untaken : m.memory.readWord m.registers.pc = .ok (Instruction.skipKeyUp x).encode →
    ∃ o, m.cycle = .ok o ∧ o.result = .ok () ∧ o.state = m.goto (m.registers.pc + 2)

/-- A machine whose next word is that of an instruction that it does not refuse carries it out. -/
theorem exists_cycle_of_word {i : Instruction} (hp : m.phase = .running)
    (hr : m.memory.readWord m.registers.pc = .ok i.encode)
    (hi : Instruction.ofWord? i.encode = some i) (hf : m.past.refusal i = none) :
    ∃ o, m.cycle = .ok o ∧ o.result = .ok () ∧ o.state = m.past.effect i := by
  have hnext : m.next? = some i := next?_of_read hp hr (Instruction.decode_eq_ok_iff.mpr hi)
  obtain ⟨o, ho⟩ := exists_cycles m
  obtain ⟨hok, hs⟩ := ho.of_next? hnext hf
  exact ⟨o, cycle_of_cycles (waitsInRange_of_running hp) ho, hok, hs⟩

/-- A skip that looks at a key moves the counter if it is taken, and does nothing else. -/
theorem effect_skipKey (m : Machine ρ) {i : Instruction}
    (hi : i = .skipKeyDown x ∨ i = .skipKeyUp x) : m.effect i = m.skipIf (m.skips i) := by
  have hpc : m.pcAfter i = if m.skips i then m.registers.pc + 2 else m.registers.pc := by
    rcases hi with rfl | rfl <;> rfl
  have hrest : m.effect i = m.goto (m.pcAfter i) := by
    rcases hi with rfl | rfl <;> rfl
  rw [hrest, hpc, skipIf]
  split <;> rfl

/-- A running machine sees a key down that is down. -/
theorem seesKeyDown_of_isDown (hp : m.phase = .running) (hx : x < 16)
    (hd : m.keypad.isDown (m.v x) = true) : m.SeesKeyDown x where
  taken hr := by
    obtain ⟨o, ho, hok, hs⟩ :=
      exists_cycle_of_word hp hr (Instruction.ofWord?_encode hx) rfl
    have hskip : m.past.skips (.skipKeyDown x) = true := hd
    refine ⟨o, ho, hok, ?_⟩
    rw [hs, effect_skipKey m.past (.inl rfl), hskip]
    change m.goto (m.registers.pc + 2 + 2) = m.goto (m.registers.pc + 4)
    rw [UInt16.add_assoc]
    rfl
  untaken hr := by
    obtain ⟨o, ho, hok, hs⟩ :=
      exists_cycle_of_word hp hr (Instruction.ofWord?_encode hx) rfl
    have hskip : m.past.skips (.skipKeyUp x) = false := by
      change (!m.keypad.isDown (m.v x)) = false
      rw [hd]
      rfl
    refine ⟨o, ho, hok, ?_⟩
    rw [hs, effect_skipKey m.past (.inr rfl), hskip]
    rfl

/-- A key that has been taken is seen down as long as no key is written. -/
theorem TakesKey.history_seesKeyDown {key : Fin 16} {o : Outcome Fault Unit (Machine ρ)}
    (h : m.TakesKey x key o) (hx : x < 16) {quiet : List Command}
    (hc : ∀ c ∈ quiet, c.LeavesKeys) :
    ∃ later timers, o.state.history quiet = .ok later ∧ later.state = { o.state with timers } ∧
      later.state.SeesKeyDown x := by
  obtain ⟨hlow, -, registers, hset, hs⟩ := h
  rw [Registers.set_write hx] at hset
  cases hset
  obtain ⟨later, hl, timers, ht⟩ := history_leavesKeys (m := o.state) hc
  refine ⟨later, timers, hl, ht, ?_⟩
  rw [ht, hs]
  apply seesKeyDown_of_isDown rfl hx
  change m.keypad.isDown ((m.registers.write x (UInt8.ofNat key.val)).read x) = true
  rw [Registers.read_write_self hx]
  exact hlow.isDown

/-- A machine that waits for a key is left as it is, but for its timers and its keys, by any cycles
that find no key down. The first cycle that finds one gives its register the number of the lowest
and lets it run on where it stood; until a key is written, a skip that comes next sees this key
down. A key that does not exist is refused by any machine. -/
theorem wait_ends_with_lowest_key (hp : m.phase = .waiting x) (hx : x < 16)
    {commands : List Command} (hc : ∀ c ∈ commands, c.Drives)
    (hk : m.EachCycle (fun reached ↦ ¬ reached.keypad.AnyDown) commands) :
    (∃ past, m.history commands = .ok past ∧ past.state.phase = .waiting x ∧
      m.Frozen past.state ∧
      (∀ i : Nat, commands[i]? = some .cycle → past.results[i]? = some (.ok ())) ∧
      (past.state.keypad.AnyDown →
        ∃ key o, past.state.cycle = .ok o ∧ past.state.TakesKey x key o ∧
          ∀ quiet, (∀ c ∈ quiet, c.LeavesKeys) →
            ∃ later timers, o.state.history quiet = .ok later ∧
              later.state = { o.state with timers } ∧ later.state.SeesKeyDown x)) ∧
    ∀ (any : Machine ρ) (key : Nat) (down : Bool), 16 ≤ key →
      any.obey (.setKey key down) = .ok ⟨.error (.fault (.invalidKey key)), any, #[]⟩ := by
  obtain ⟨past, hl, hpp, hfrozen, hresults⟩ := history_staysWaiting hp hx hc hk
  refine ⟨⟨past, hl, hpp, hfrozen, hresults, ?_⟩, fun any key down ↦ obey_setKey_of_le any down⟩
  intro hany
  obtain ⟨key, o, ho, htakes⟩ := exists_takesKey hpp hx hany
  exact ⟨key, o, ho, htakes, fun quiet hq ↦ htakes.history_seesKeyDown hx hq⟩

/-- A machine that waits for a key to put into V3, with a skip for that key before it. -/
def waitsForV3 : Machine Cyclic :=
  { (powerOn (Cyclic.ofList []) .standard).reset (Memory.powerOn.put programAddr [0xE3, 0x9E]) with
    phase := .waiting 3 }

private theorem waitsForV3_eachCycle :
    waitsForV3.EachCycle (fun reached ↦ ¬ reached.keypad.AnyDown)
      [.cycle, .setKey 0xD true, .setKey 0xB true] := by
  have hnone : ¬ waitsForV3.keypad.AnyDown := Keypad.firstDown_eq_none_iff.mp (by decide)
  refine (eachCycle_cons_iff rfl).mpr ⟨fun _ ↦ hnone, ?_⟩
  refine (eachCycle_cons_iff rfl).mpr ⟨by simp, ?_⟩
  refine (eachCycle_cons_iff rfl).mpr ⟨by simp, ?_⟩
  intro front back past he
  simp at he

/-- The machine waits through a cycle, takes the lower of two keys and skips over a word. -/
theorem wait_ends_with_lowest_key_two :
    ∃ past, waitsForV3.history [.cycle, .setKey 0xD true, .setKey 0xB true] = .ok past ∧
      past.state.phase = .waiting 3 ∧
      ∃ o, past.state.cycle = .ok o ∧ past.state.TakesKey 3 0xB o ∧
        ∃ later, o.state.history [.tick, .setKey 16 false] = .ok later ∧
          ∃ p, later.state.cycle = .ok p ∧ p.state.registers.pc = 0x204 := by
  obtain ⟨⟨past, hl, hp, ⟨_, _, hs⟩, -, hwake⟩, -⟩ :=
    wait_ends_with_lowest_key (m := waitsForV3) (x := 3) rfl (by decide)
      (by simp [Command.Drives]) waitsForV3_eachCycle
  have hkeys : (waitsForV3.history [.cycle, .setKey 0xD true, .setKey 0xB true]).toOption.map
      (·.state.keypad.firstDown) = some (some 0xB) := by
    decide +kernel
  rw [hl] at hkeys
  have hfirst : past.state.keypad.firstDown = some 0xB := Option.some.inj hkeys
  obtain ⟨key, o, ho, htakes, hquiet⟩ := hwake ⟨_, (Keypad.firstDown_eq_some_iff.mp hfirst).down⟩
  have hkey : some key = some 0xB :=
    (Keypad.firstDown_eq_some_iff.mpr htakes.lowest).symm.trans hfirst
  cases hkey
  obtain ⟨later, _, hlater, hst, hsees⟩ :=
    hquiet [.tick, .setKey 16 false] (by simp [Command.LeavesKeys])
  obtain ⟨registers, hset, hso⟩ := htakes.state
  rw [Registers.set_write (by decide)] at hset
  cases hset
  have hpc : later.state.registers.pc = 0x200 := by
    rw [hst, hso, hs]
    rfl
  have hmem : later.state.memory = waitsForV3.memory := by rw [hst, hso, hs]
  have hword : later.state.memory.readWord later.state.registers.pc =
      .ok (Instruction.skipKeyDown 3).encode := by
    rw [hpc, hmem, Memory.readWord, dif_pos (by decide)]
    exact congrArg Except.ok (by decide +kernel)
  obtain ⟨p, hcycle, -, hsp⟩ := hsees.taken hword
  refine ⟨past, hl, hp, o, ho, htakes, later, hlater, p, hcycle, ?_⟩
  rw [hsp, hpc]
  rfl

end Machine
end Chip8
