import Chip8.Proofs.Commands

/-!
# Loading

A program that fits resets the machine: nothing of its past is left but its keys, its source of
random bytes and its dialect. A program that does not fit changes nothing, nor does one that
cannot be read to its end.
-/

namespace Chip8

/-- The bytes of memory with a program in it: the font at `050`, the program at `200`, and zeroes
elsewhere. -/
def Memory.image (program : List UInt8) : List UInt8 :=
  List.replicate 0x050 0 ++ font ++ List.replicate 0x160 0 ++ program ++
    List.replicate (0xE00 - program.length) 0

/-- What one read from a source of bytes gives, when it gives anything. -/
inductive Read where
  /-- The next bytes, at least one. -/
  | bytes (first : UInt8) (more : List UInt8)
  /-- Nothing, but one may read again. -/
  | interrupted
  /-- A failure, after which nobody reads on. -/
  | failed (text : String)

/-- The bytes that a read adds. -/
def Read.data : Read → List UInt8
  | .bytes first more => first :: more
  | .interrupted | .failed _ => []

/-- Read on to the end of a source, or to its first failure. -/
def Reading.ofReads : List Read → Reading
  | [] => ⟨[], none⟩
  | .failed text :: _ => ⟨[], some text⟩
  | read :: rest => ⟨read.data ++ (ofReads rest).bytes, (ofReads rest).failure⟩

namespace Memory

private theorem replicate_split {n i j k : Nat} (h : n = i + j + k) :
    List.replicate n (0 : UInt8) =
      List.replicate i 0 ++ List.replicate j 0 ++ List.replicate k 0 := by
  rw [h, List.replicate_append_replicate, List.replicate_append_replicate]

private theorem toList_powerOn :
    powerOn.cells.toList = List.replicate 0x050 0 ++ font ++ List.replicate 0xF60 0 := by
  have hz : (zero memorySize).cells.toList =
      List.replicate 0x050 0 ++ List.replicate 80 0 ++ List.replicate 0xF60 0 :=
    Vector.toList_replicate.trans (replicate_split rfl)
  rw [powerOn_eq]
  exact toList_overwrite hz List.length_replicate List.length_replicate

/-- Memory after loading a program that fits. -/
theorem toList_put_program {program : List UInt8} (h : program.length ≤ maxProgramSize) :
    (powerOn.put programAddr program).cells.toList = image program := by
  have hle : program.length ≤ 0xE00 := h
  have hsplit : List.replicate 0xF60 (0 : UInt8) = List.replicate 0x160 0 ++
      List.replicate program.length 0 ++ List.replicate (0xE00 - program.length) 0 :=
    replicate_split (by omega)
  have hp : powerOn.cells.toList =
      (List.replicate 0x050 0 ++ font ++ List.replicate 0x160 0) ++
        List.replicate program.length 0 ++ List.replicate (0xE00 - program.length) 0 := by
    rw [toList_powerOn, hsplit]
    simp only [List.append_assoc]
  have hs : (List.replicate 0x050 0 ++ font ++ List.replicate 0x160 0).length =
      programAddr.toNat := by
    rw [List.length_append, List.length_append, List.length_replicate, List.length_replicate]
    rfl
  exact toList_overwrite hp hs List.length_replicate

end Memory

namespace Reading

/-- A source without failures is read as a whole. -/
theorem ofReads_of_unfailed {reads : List Read} (h : ∀ text, .failed text ∉ reads) :
    ofReads reads = ⟨reads.flatMap Read.data, none⟩ := by
  induction reads with
  | nil => rfl
  | cons read rest ih =>
    have hrest := ih fun text ht ↦ h text (List.mem_cons_of_mem read ht)
    cases read with
    | failed text => exact absurd List.mem_cons_self (h text)
    | bytes first more => simp only [ofReads, hrest, List.flatMap_cons]
    | interrupted => simp only [ofReads, hrest, List.flatMap_cons]

/-- A source that fails is read up to its first failure, which is passed on. -/
theorem failure_ofReads {reads : List Read} (h : ∀ text, .failed text ∉ reads) (text : String)
    (rest : List Read) : (ofReads (reads ++ .failed text :: rest)).failure = some text := by
  induction reads with
  | nil => rfl
  | cons read reads ih =>
    have hrest := ih fun text ht ↦ h text (List.mem_cons_of_mem read ht)
    cases read with
    | failed text => exact absurd List.mem_cons_self (h text)
    | bytes first more => exact hrest
    | interrupted => exact hrest

end Reading

namespace Machine

variable {ρ : Type}

/-- What becomes of a machine that is reset depends on its keys, its source of random bytes and its
dialect. -/
theorem reset_congr {m m' : Machine ρ} (hk : m'.keypad = m.keypad) (hr : m'.random = m.random)
    (hd : m'.dialect = m.dialect) (memory : Memory memorySize) :
    m'.reset memory = m.reset memory := by
  simp only [reset, hk, hr, hd]

/-- Loading a program a second time changes nothing. -/
theorem load_load (m : Machine ρ) (program : List UInt8) :
    (m.load program).state.load program = m.load program := by
  by_cases h : maxProgramSize < program.length
  · rw [load_of_lt m h, load_of_lt m h]
  · have hle : program.length ≤ maxProgramSize := Nat.le_of_not_lt h
    rw [load_of_le m hle, load_of_le _ hle]
    rfl

variable [RandomSource ρ]

/-- A program that does not fit is refused and changes nothing. Any other leaves the font, the
program and zeroes in memory, the counter at the program, and all else as at power on, but for the
keys, the source of random bytes and the dialect; so machines that agree on these three go on
alike. Loading twice is loading once. A program that is read from a source is loaded as its bytes,
and a source that fails changes nothing. -/
theorem load_resets (m : Machine ρ) (program : List UInt8) :
    (3584 < program.length →
      m.load program = ⟨.error (.programTooLarge program.length 3584), m, #[]⟩) ∧
    (program.length ≤ 3584 → ∃ loaded : Machine ρ,
      m.load program = ⟨.ok (), loaded, #[.loaded program.length]⟩ ∧
      loaded.memory.cells.toList = Memory.image program ∧
      loaded.registers.pc = 0x200 ∧
      (∀ (random : ρ) (dialect : Dialect), loaded =
        { ((powerOn random dialect).load program).state with
          keypad := m.keypad, random := m.random, dialect := m.dialect }) ∧
      ∀ m' : Machine ρ, m'.keypad = m.keypad → m'.random = m.random → m'.dialect = m.dialect →
        m'.load program = m.load program ∧
        ∀ commands, (m'.load program).state.history commands = loaded.history commands) ∧
    (m.load program).state.load program = m.load program ∧
    ∀ reads, (∀ text, .failed text ∉ reads) →
      m.loadFrom (.ofReads reads) = (m.load (reads.flatMap Read.data)).asLoad ∧
      ∀ text rest, m.loadFrom (.ofReads (reads ++ .failed text :: rest)) =
        ⟨.error (.io text), m, #[]⟩ := by
  refine ⟨load_of_lt m, ?_, load_load m program, ?_⟩
  · intro h
    refine ⟨_, load_of_le m h, Memory.toList_put_program h, rfl, ?_, ?_⟩
    · intro random dialect
      rw [load_of_le _ h]
      rfl
    · intro m' hk hr hd
      have hl : m'.load program = m.load program := by
        rw [load_of_le m h, load_of_le m' h, reset_congr hk hr hd]
      refine ⟨hl, ?_⟩
      intro commands
      rw [hl, load_of_le m h]
  · intro reads h
    refine ⟨?_, ?_⟩
    · simp only [loadFrom, Reading.ofReads_of_unfailed h]
    · intro text rest
      simp only [loadFrom, Reading.failure_ofReads h]

end Machine
end Chip8
