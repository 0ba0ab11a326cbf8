import Chip8.Proofs.Commands

/-!
# Random bytes

A machine takes its random bytes in the order of the stream, one for each `CXNN` that it carries out
and none for anything else. The count of those instructions since power on, whatever was loaded,
faulted or resumed in between, is the position in the stream.
-/

namespace Chip8

namespace Cyclic

open RandomSource

/-- A list that is played round and round has come to the count of bytes, less full rounds. -/
theorem after_ofList (bytes : List UInt8) (k : Nat) :
    after (ofList bytes) k = ⟨bytes.toArray, k % max bytes.length 1⟩ := by
  induction k with
  | zero => rw [Nat.zero_mod, after, ofList]
  | succ k ih =>
    rw [after_succ, ih]
    change (⟨bytes.toArray, (k % max bytes.length 1 + 1) % max bytes.length 1⟩ : Cyclic) = _
    rw [Nat.mod_add_mod]

/-- The stream of a list is the list round and round, or zeroes if the list is empty. -/
theorem byteAt_ofList (bytes : List UInt8) (k : Nat) :
    byteAt (ofList bytes) k = bytes.getD (k % bytes.length) 0 := by
  rw [byteAt, after_ofList]
  change bytes.toArray[k % max bytes.length 1]?.getD 0 = _
  rw [List.getElem?_toArray, List.getD_eq_getElem?_getD]
  cases bytes with
  | nil => rfl
  | cons b rest => rw [Nat.max_eq_left (show 1 ≤ (b :: rest).length from Nat.succ_pos _)]

end Cyclic

/-- The number of random bytes that an instruction takes. -/
def Instruction.bytesTaken : Instruction → Nat
  | .random _ _ => 1
  | _ => 0

namespace Machine

variable {ρ : Type}

/-- The number of random bytes that a command takes. -/
def bytesTaken (m : Machine ρ) : Command → Nat
  | .cycle => (m.next?.map Instruction.bytesTaken).getD 0
  | _ => 0

variable [RandomSource ρ]

/-- The number of random bytes that commands take. -/
def allTaken (m : Machine ρ) : List Command → Nat
  | [] => 0
  | c :: commands =>
    match m.obey c with
    | .error _ => 0
    | .ok o => m.bytesTaken c + o.state.allTaken commands

/-- A cycle that carries out `CXNN` gives VX the next byte of the stream, masked. -/
theorem Cycles.takes {m : Machine ρ} {o : Outcome Fault Unit (Machine ρ)} (h : m.Cycles o)
    {x nn : UInt8} (hi : m.next? = some (.random x nn)) :
    o.result = .ok () ∧ o.state.v x = (RandomSource.next m.random).1 &&& nn ∧
      o.state.random = (RandomSource.next m.random).2 := by
  obtain ⟨hr, hs⟩ := h.of_next? hi rfl
  obtain ⟨_, _, _, hd⟩ := read_of_next? hi
  have hx : x < 16 := Instruction.encodable_of_decode hd
  rw [hs]
  exact ⟨hr, Registers.read_write_self hx, rfl⟩

/-- A cycle moves the source past the bytes that it takes. -/
theorem Cycles.random {m : Machine ρ} {o : Outcome Fault Unit (Machine ρ)} (h : m.Cycles o) :
    o.state.random = RandomSource.after m.random (m.bytesTaken .cycle) := by
  cases h with
  | again hp | idle hp _ | key hp _ =>
    simp only [bytesTaken, next?, hp]
    rfl
  | unfetched hp hf =>
    simp only [bytesTaken, next?, hp, hf]
    rfl
  | unread hp hf hn =>
    simp only [bytesTaken, next?, hp, hf, hn]
    rfl
  | @refused _ i _ hp hf hd href =>
    simp only [bytesTaken, next?_of_read hp hf hd]
    cases i with
    | random _ _ => cases href
    | _ => rfl
  | @carriedOut _ i hp hf hd _ =>
    simp only [bytesTaken, next?_of_read hp hf hd]
    cases i <;> rfl

/-- Every command moves the source past the bytes that it takes. -/
theorem Obeys.random {m : Machine ρ} {c : Command} {o : Outcome LoadError Unit (Machine ρ)}
    (h : m.Obeys c o) : o.state.random = RandomSource.after m.random (m.bytesTaken c) := by
  cases h with
  | cycled hc => exact hc.random
  | read _ hl => cases hl <;> rfl
  | _ => rfl

/-- After any commands the source is past the bytes that they have taken. -/
theorem random_history {m : Machine ρ} (hw : m.WaitsInRange) (commands : List Command) :
    ∃ past, m.history commands = .ok past ∧ past.state.WaitsInRange ∧
      past.state.random = RandomSource.after m.random (m.allTaken commands) := by
  induction commands generalizing m with
  | nil => exact ⟨_, rfl, hw, rfl⟩
  | cons c commands ih =>
    obtain ⟨o, h⟩ := exists_obeys m c
    have ho := obey_of_obeys hw h
    obtain ⟨past, hp, hwp, hr⟩ := ih (hw.obeys h)
    refine ⟨_, history_cons ho hp, hwp, ?_⟩
    rw [hr, h.random, ← RandomSource.after_add]
    simp only [allTaken, ho]

/-- After any commands since power on the source has come to the byte whose number is the count of
the instructions `CXNN` carried out so far. The next command moves it on if it carries out another
one, which gives VX that byte, masked, and else leaves it. A source that plays a list plays it round
and round, and zeroes if the list is empty. -/
theorem random_bytes_in_order (random : ρ) (dialect : Dialect) (commands : List Command) :
    (∃ past, (powerOn random dialect).history commands = .ok past ∧
      past.state.random =
        RandomSource.after random ((powerOn random dialect).allTaken commands) ∧
      (∀ c, ∃ o, past.state.obey c = .ok o ∧ o.state.random =
        RandomSource.after random
          ((powerOn random dialect).allTaken commands + past.state.bytesTaken c)) ∧
      ∀ x nn, past.state.next? = some (.random x nn) →
        ∃ o, past.state.cycle = .ok o ∧ o.result = .ok () ∧
          o.state.v x = RandomSource.byteAt random
            ((powerOn random dialect).allTaken commands) &&& nn) ∧
    ∀ bytes k, RandomSource.byteAt (Cyclic.ofList bytes) k =
      bytes.getD (k % bytes.length) 0 := by
  refine ⟨?_, Cyclic.byteAt_ofList⟩
  have hw : (powerOn random dialect).WaitsInRange := by
    intro x hx
    cases hx
  obtain ⟨past, hp, hwp, hr⟩ := random_history hw commands
  refine ⟨past, hp, hr, ?_, ?_⟩
  · intro c
    obtain ⟨o, ho⟩ := exists_obeys past.state c
    refine ⟨o, obey_of_obeys hwp ho, ?_⟩
    rw [ho.random, hr, RandomSource.after_add]
    rfl
  · intro x nn hi
    obtain ⟨o, ho⟩ := exists_cycles past.state
    obtain ⟨hres, hv, _⟩ := ho.takes hi
    refine ⟨o, cycle_of_cycles hwp ho, hres, ?_⟩
    rw [hv, hr]
    rfl

end Machine
end Chip8
