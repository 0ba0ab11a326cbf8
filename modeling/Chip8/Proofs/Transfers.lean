import Chip8.Proofs.Footprint
import Chip8.Proofs.Storage

/-!
# Registers in memory

V0 to VX go to memory at I and come back from there. Either way, the instruction is carried out
exactly if all the bytes exist from I to X places further on, and leaves I alone. What was stored
comes back as long as these bytes stay as they are, and what was loaded goes back without a change.
The decimal digits of a byte, stored at I, come back in V0 to V2.
-/

namespace Chip8

/-! ### Runs of registers -/

namespace Registers

variable {r : Registers} {x z : UInt8} {values : List UInt8}

/-- The bytes in V0 to VX. -/
def through (r : Registers) (x : UInt8) : List UInt8 := r.v.toList.take (x.toNat + 1)

/-- V0 to VX are one byte more than X. -/
theorem length_through (hx : x < 16) : (r.through x).length = x.toNat + 1 := by
  have hx' : x.toNat < 16 := UInt8.lt_iff_toNat_lt.mp hx
  rw [through, List.length_take, Vector.length_toList]
  omega

/-- Each of the bytes in V0 to VX is the one in its register. -/
theorem getD_through (hz : z ≤ x) : (r.through x).getD z.toNat 0 = r.read z := by
  have hz' : z.toNat ≤ x.toNat := UInt8.le_iff_toNat_le.mp hz
  rw [through, List.getD_eq_getElem?_getD, List.getElem?_take_of_lt (by omega),
    Vector.getElem?_toList, read]

/-- Registers that are given bytes hold them. -/
theorem through_overwrite (hx : x < 16) (hl : values.length = x.toNat + 1) :
    ({ r with v := overwrite r.v 0 values } : Registers).through x = values := by
  have hx' : x.toNat < 16 := UInt8.lt_iff_toNat_lt.mp hx
  have hrun : ((overwrite r.v 0 values).toList.drop 0).take values.length = values :=
    take_drop_overwrite (by omega)
  rw [List.drop_zero, hl] at hrun
  exact hrun

end Registers

namespace Machine

variable {ρ : Type}

/-! ### What the instructions promise -/

/-- An instruction needs the bytes from I to `last` places further on. It succeeds and leaves I
alone if they all exist; otherwise it faults at the first that does not, and nothing changes. -/
structure NeedsBytes [RandomSource ρ] (m : Machine ρ) (i : Instruction) (last : Nat) : Prop where
  within : m.registers.index.toNat + last < memorySize →
    ∃ after, i.carryOut.run m = .ok () after ∧ after.registers.index = m.registers.index
  beyond : memorySize ≤ m.registers.index.toNat + last →
    i.carryOut.run m = .error (.fault (.outOfBounds (max m.registers.index.toNat memorySize))) m

/-- I points at the same bytes in two machines, up to `last` places further on. -/
structure SameAtIndex (m m' : Machine ρ) (last : Nat) : Prop where
  index : m'.registers.index = m.registers.index
  bytes : ∀ k ≤ last, m'.memory.cells[m.registers.index.toNat + k]? =
    m.memory.cells[m.registers.index.toNat + k]?

/-- A machine has V0 to VX of one machine and the other registers of another. -/
structure Joins (after low high : Machine ρ) (x : UInt8) : Prop where
  upTo : ∀ z ≤ x, after.v z = low.v z
  above : ∀ z, x < z → after.v z = high.v z

/-- V0, V1 and V2 are the decimal digits of a byte. -/
structure HoldsDigits (m : Machine ρ) (value : UInt8) : Prop where
  hundreds : (m.v 0).toNat ≤ 9
  tens : (m.v 1).toNat ≤ 9
  ones : (m.v 2).toNat ≤ 9
  sum : 100 * (m.v 0).toNat + 10 * (m.v 1).toNat + (m.v 2).toNat = value.toNat

/-! ### One transfer -/

section

variable [RandomSource ρ] {m after : Machine ρ} {i : Instruction} {last : Nat} {x : UInt8}

/-- An instruction that is refused only for lack of bytes at I succeeds exactly if they exist, and
then has its effect. -/
theorem run_eq_ok_iff (hi : i.Encodable) (hr : m.refusal i = m.lack (last + 1)) :
    i.carryOut.run m = .ok () after ↔
      m.registers.index.toNat + last < memorySize ∧ after = m.effect i := by
  rw [Instruction.run_carryOut_of_lack m hi hr]
  split
  · next h =>
    have hlack : ¬ m.registers.index.toNat + last < memorySize := by omega
    simp [hlack]
  · next h =>
    have hfit : m.registers.index.toNat + last < memorySize := by omega
    simp [hfit, eq_comm]

/-- An instruction that leaves I alone and is refused only for lack of bytes at I needs those bytes.
-/
theorem needsBytes_of_lack (hi : i.Encodable) (hr : m.refusal i = m.lack (last + 1))
    (hindex : m.indexAfter i = m.registers.index) : m.NeedsBytes i last where
  within h := ⟨m.effect i, (run_eq_ok_iff hi hr).mpr ⟨h, rfl⟩, hindex⟩
  beyond h := by
    have hlack : memorySize < m.registers.index.toNat + (last + 1) := Nat.lt_succ_of_le h
    rw [Instruction.run_carryOut_of_lack m hi hr, if_pos hlack]

/-! ### There and back -/

/-- A load puts the bytes that it finds at I into V0 to VX. -/
theorem through_effect (hx : x < 16) (hfit : m.registers.index.toNat + x.toNat < memorySize) :
    (m.effect (.loadRegisters x)).registers.through x =
      m.memory.window m.registers.index (x.toNat + 1) :=
  Registers.through_overwrite hx (Memory.length_window hfit)

/-- A load of bytes that exist succeeds, and leaves the registers above VX alone. -/
theorem exists_load (hx : x < 16) (hfit : m.registers.index.toNat + x.toNat < memorySize) :
    ∃ loaded, (Instruction.loadRegisters x).carryOut.run m = .ok () loaded ∧
      loaded.registers.through x = m.memory.window m.registers.index (x.toNat + 1) ∧
      ∀ z, x < z → loaded.v z = m.v z := by
  have hrun := (run_eq_ok_iff (i := .loadRegisters x) hx rfl).mpr ⟨hfit, rfl⟩
  refine ⟨_, hrun, through_effect hx hfit, fun z hz ↦ ?_⟩
  exact read_bankAfter m (i := .loadRegisters x) (UInt8.not_le.mpr hz)

/-- A load gives V0 to VX the bytes that a store has put away. -/
theorem exists_load_of_store {stored later : Machine ρ} (hx : x < 16)
    (hs : (Instruction.storeRegisters x).carryOut.run m = .ok () stored)
    (hl : stored.SameAtIndex later x.toNat) :
    ∃ restored, (Instruction.loadRegisters x).carryOut.run later = .ok () restored ∧
      restored.Joins m later x := by
  obtain ⟨hfit, rfl⟩ := (run_eq_ok_iff (i := .storeRegisters x) hx rfl).mp hs
  have hindex : later.registers.index = m.registers.index := hl.index
  obtain ⟨restored, hrun, hlow, hhigh⟩ := exists_load hx (hindex.symm ▸ hfit)
  have hthrough : restored.registers.through x = m.registers.through x :=
    calc restored.registers.through x
        = later.memory.window m.registers.index (x.toNat + 1) := hindex ▸ hlow
      _ = (m.memory.put m.registers.index (m.registers.through x)).window m.registers.index
            (x.toNat + 1) := Memory.window_congr fun k hk ↦ hl.bytes k (Nat.le_of_lt_succ hk)
      _ = m.registers.through x := by
        rw [← Registers.length_through hx]
        exact Memory.window_put (Registers.length_through hx ▸ hfit)
  refine ⟨restored, hrun, fun z hz ↦ ?_, hhigh⟩
  rw [v, ← Registers.getD_through hz, hthrough, Registers.getD_through hz, v]

/-- A store after a load changes no byte of memory. -/
theorem exists_store_of_load {loaded : Machine ρ} (hx : x < 16)
    (hl : (Instruction.loadRegisters x).carryOut.run m = .ok () loaded) :
    ∃ stored, (Instruction.storeRegisters x).carryOut.run loaded = .ok () stored ∧
      stored.memory = m.memory := by
  obtain ⟨hfit, rfl⟩ := (run_eq_ok_iff (i := .loadRegisters x) hx rfl).mp hl
  refine ⟨_, (run_eq_ok_iff (i := .storeRegisters x) hx rfl).mpr ⟨hfit, rfl⟩, ?_⟩
  change m.memory.put m.registers.index ((m.effect (.loadRegisters x)).registers.through x) =
    m.memory
  rw [through_effect hx hfit, Memory.put_window]

/-- A load after a store of the digits of a byte gives V0, V1 and V2 those digits. -/
theorem exists_load_of_storeDecimal {stored : Machine ρ} (hx : x < 16)
    (hs : (Instruction.storeDecimal x).carryOut.run m = .ok () stored) :
    ∃ shown, (Instruction.loadRegisters 2).carryOut.run stored = .ok () shown ∧
      shown.HoldsDigits (m.v x) := by
  have htwo : (2 : UInt8) < 16 := by decide
  obtain ⟨hfit, rfl⟩ := (run_eq_ok_iff (i := .storeDecimal x) hx rfl).mp hs
  obtain ⟨shown, hrun, hlow, -⟩ := exists_load (m := m.effect (.storeDecimal x)) htwo hfit
  have hthrough : shown.registers.through 2 = decimalDigits (m.v x) :=
    hlow.trans (Memory.window_put hfit)
  have hdigit : ∀ z ≤ 2, shown.v z = (decimalDigits (m.v x)).getD z.toNat 0 := by
    intro z hz
    rw [v, ← Registers.getD_through hz, hthrough]
  have h0 : (shown.v 0).toNat = (m.v x).toNat / 100 := by
    rw [hdigit 0 (by decide)]
    exact UInt8.toNat_div _ _
  have h1 : (shown.v 1).toNat = (m.v x).toNat / 10 % 10 := by
    rw [hdigit 1 (by decide)]
    exact (UInt8.toNat_mod _ _).trans (congrArg (· % 10) (UInt8.toNat_div _ _))
  have h2 : (shown.v 2).toNat = (m.v x).toNat % 10 := by
    rw [hdigit 2 (by decide)]
    exact UInt8.toNat_mod _ _
  have hv := (m.v x).toNat_lt
  exact ⟨shown, hrun, by omega, by omega, by omega, by omega⟩

end

/-- Stores and loads of V0 to VX, and of the digits of VX, succeed exactly if the bytes that they
need exist; they fault at the first that does not, and never move I. A load restores the registers
that a store has put away, as long as I and these bytes are left alone, and no others. A store after
a load changes no byte. Digits that are loaded again are the hundreds, tens and ones of VX. -/
theorem transfers_round_trip [RandomSource ρ] (m : Machine ρ) {x : UInt8} (hx : x < 16) :
    m.NeedsBytes (.storeRegisters x) x.toNat ∧ m.NeedsBytes (.loadRegisters x) x.toNat ∧
      m.NeedsBytes (.storeDecimal x) 2 ∧
      (∀ stored later, (Instruction.storeRegisters x).carryOut.run m = .ok () stored →
        stored.SameAtIndex later x.toNat →
        ∃ restored, (Instruction.loadRegisters x).carryOut.run later = .ok () restored ∧
          restored.Joins m later x) ∧
      (∀ loaded, (Instruction.loadRegisters x).carryOut.run m = .ok () loaded →
        ∃ stored, (Instruction.storeRegisters x).carryOut.run loaded = .ok () stored ∧
          stored.memory = m.memory) ∧
      ∀ stored, (Instruction.storeDecimal x).carryOut.run m = .ok () stored →
        ∃ shown, (Instruction.loadRegisters 2).carryOut.run stored = .ok () shown ∧
          shown.HoldsDigits (m.v x) :=
  ⟨needsBytes_of_lack hx rfl rfl, needsBytes_of_lack hx rfl rfl, needsBytes_of_lack hx rfl rfl,
    fun _ _ ↦ exists_load_of_store hx, fun _ ↦ exists_store_of_load hx,
    fun _ ↦ exists_load_of_storeDecimal hx⟩

/-- A machine with four bytes of memory left from I on. -/
def roomForFour : Machine Cyclic :=
  let m := Machine.powerOn (Cyclic.ofList []) .standard
  { m with registers := ⟨Vector.ofFn fun z ↦ UInt8.ofNat (251 - z), 0xFFC, programAddr⟩ }

/-- A machine with other bytes put into all of its registers. -/
def scrambled (m : Machine ρ) : Machine ρ :=
  { m with registers := { m.registers with v := Vector.replicate 16 7 } }

/-- V0 to V3 can be stored, and come back after all registers have changed. There is no room for a
fifth. The digits of V3 come back too. -/
theorem transfers_round_trip_roomForFour :
    ((3 : UInt8) < 16 ∧ (4 : UInt8) < 16) ∧
      (∃ stored restored,
        (Instruction.storeRegisters 3).carryOut.run roomForFour = .ok () stored ∧
        (Instruction.loadRegisters 3).carryOut.run stored.scrambled = .ok () restored ∧
        restored.v 3 = 248 ∧ restored.v 4 = 7) ∧
      (Instruction.storeRegisters 4).carryOut.run roomForFour =
        .error (.fault (.outOfBounds 0x1000)) roomForFour ∧
      ∃ stored shown, (Instruction.storeDecimal 3).carryOut.run roomForFour = .ok () stored ∧
        (Instruction.loadRegisters 2).carryOut.run stored = .ok () shown ∧
        100 * (shown.v 0).toNat + 10 * (shown.v 1).toNat + (shown.v 2).toNat = 248 := by
  have h3 : (3 : UInt8) < 16 := by decide
  have h4 : (4 : UInt8) < 16 := by decide
  obtain ⟨hstore, -, hdigits, hback, -, hshown⟩ := transfers_round_trip roomForFour h3
  refine ⟨⟨h3, h4⟩, ?_, (transfers_round_trip roomForFour h4).1.beyond (by decide), ?_⟩
  · obtain ⟨stored, hrun, -⟩ := hstore.within (by decide)
    obtain ⟨restored, hrun', hlow, hhigh⟩ :=
      hback stored stored.scrambled hrun ⟨rfl, fun _ _ ↦ rfl⟩
    refine ⟨stored, restored, hrun, hrun', ?_, ?_⟩
    · rw [hlow 3 (by decide)]
      decide
    · rw [hhigh 4 (by decide)]
      rfl
  · obtain ⟨stored, hrun, -⟩ := hdigits.within (by decide)
    obtain ⟨shown, hrun', hholds⟩ := hshown stored hrun
    exact ⟨stored, shown, hrun, hrun', hholds.sum⟩

end Machine
end Chip8
