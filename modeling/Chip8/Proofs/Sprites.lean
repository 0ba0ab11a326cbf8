import Chip8.Proofs.Decoding
import Chip8.Proofs.Effect

/-!
# Sprites in memory

A draw reads its rows before it flips any pixel. It is refused exactly when one of them does not
exist, and otherwise draws them where VX and VY say, one of which may be the flag it writes after
that. A sprite without rows is the exception. It has no row that could be missing, and is refused
all the same when I points further than just past the top of memory: the end of an access is
checked, not its bytes.
-/

namespace Chip8

namespace Machine

variable {ρ : Type}

/-- The lowest address beyond memory at which a row of the sprite at I would lie. -/
structure FirstLacking (m : Machine ρ) (rows : UInt8) (addr : Nat) : Prop where
  beyond : memorySize ≤ addr
  row : ∃ k < rows.toNat, m.registers.index.toNat + k = addr
  first : ∀ k < rows.toNat, memorySize ≤ m.registers.index.toNat + k →
    addr ≤ m.registers.index.toNat + k

/-- A sprite has the bytes that lie in memory at I, a row each, and all of them exist. -/
structure LiesAtIndex (m : Machine ρ) (rows : UInt8) (sprite : List UInt8) : Prop where
  length : sprite.length = rows.toNat
  bytes : ∀ k < rows.toNat, sprite[k]? = m.memory.cells[m.registers.index.toNat + k]?

/-- A draw that needs a byte that does not exist faults at the first such byte and leaves the
machine as it was. One that needs none draws the sprite at I at column VX, row VY, and notes in the
flag whether a pixel was switched off. -/
structure DrawsAsNeeded [RandomSource ρ] (m : Machine ρ) (x y rows : UInt8) : Prop where
  fault : ∀ addr, m.FirstLacking rows addr →
    (Instruction.draw x y rows).carryOut.run m = .error (.fault (.outOfBounds addr)) m
  draw : (∀ k < rows.toNat, m.registers.index.toNat + k < memorySize) →
    ∃ sprite, m.LiesAtIndex rows sprite ∧
      (Instruction.draw x y rows).carryOut.run m = .ok ()
        { m with
          screen := (m.screen.drawSprite (m.v x) (m.v y) sprite).1
          registers := m.registers.setFlag (m.screen.drawSprite (m.v x) (m.v y) sprite).2 }

/-- The first lacking row lies at I or just past the top of memory. -/
theorem FirstLacking.eq_max {m : Machine ρ} {rows : UInt8} {addr : Nat}
    (h : m.FirstLacking rows addr) : addr = max m.registers.index.toNat memorySize := by
  obtain ⟨hbeyond, ⟨k, hk, rfl⟩, hfirst⟩ := h
  by_cases hi : memorySize ≤ m.registers.index.toNat
  · have := hfirst 0 (by omega) hi
    omega
  · have := hfirst (memorySize - m.registers.index.toNat) (by omega) (by omega)
    omega

/-- The sprite at I has the bytes that lie there if none is beyond memory. -/
theorem liesAtIndex_sprite {m : Machine ρ} {rows : UInt8}
    (h : m.registers.index.toNat + rows.toNat ≤ memorySize) :
    m.LiesAtIndex rows (m.sprite rows) where
  length := Memory.length_window h
  bytes _ hk := Memory.getElem?_window hk

/-- A sprite that has the bytes at I is the one that lies there. -/
theorem LiesAtIndex.eq_sprite {m : Machine ρ} {rows : UInt8} {sprite : List UInt8}
    (h : m.LiesAtIndex rows sprite) : sprite = m.sprite rows :=
  Memory.eq_window (Nat.le_of_eq h.length) h.bytes

/-- Rows that all exist end within memory; where there are none, I has to point there. -/
theorem ends_within {m : Machine ρ} {rows : UInt8}
    (hexist : ∀ k < rows.toNat, m.registers.index.toNat + k < memorySize)
    (hempty : rows = 0 → m.registers.index.toNat ≤ memorySize) :
    m.registers.index.toNat + rows.toNat ≤ memorySize := by
  by_cases hz : rows = 0
  · subst hz
    exact hempty rfl
  · -- The last row lies highest.
    have hpos : rows.toNat ≠ 0 := fun he ↦ hz (UInt8.toNat_inj.mp he)
    have := hexist (rows.toNat - 1) (by omega)
    omega

variable [RandomSource ρ] {m : Machine ρ} {word : UInt16} {x y rows : UInt8}

/-- A draw whose rows end beyond memory is refused. -/
theorem run_draw_beyond (h : Instruction.decode word = .ok (.draw x y rows))
    (hn : memorySize < m.registers.index.toNat + rows.toNat) :
    (Instruction.draw x y rows).carryOut.run m =
      .error (.fault (.outOfBounds (max m.registers.index.toNat memorySize))) m := by
  rw [Instruction.run_carryOut_of_lack m (Instruction.encodable_of_decode h) rfl, if_pos hn]

/-- A draw whose rows end within memory draws the sprite at I and notes its flag. -/
theorem run_draw_within (h : Instruction.decode word = .ok (.draw x y rows))
    (hn : m.registers.index.toNat + rows.toNat ≤ memorySize) :
    (Instruction.draw x y rows).carryOut.run m = .ok ()
      { m with
        screen := (m.drawn x y rows).1
        registers := m.registers.setFlag (m.drawn x y rows).2 } := by
  rw [Instruction.run_carryOut_of_lack m (Instruction.encodable_of_decode h) rfl,
    if_neg (Nat.not_lt.mpr hn)]
  rfl

/-- A draw without rows that behaves as needed is not one far past memory. -/
theorem DrawsAsNeeded.within (hneeded : m.DrawsAsNeeded x y 0)
    (h : Instruction.decode word = .ok (.draw x y 0)) :
    m.registers.index.toNat ≤ memorySize := by
  apply Nat.le_of_not_lt
  intro hi
  obtain ⟨sprite, -, hok⟩ := hneeded.draw fun k hk ↦ absurd hk (Nat.not_lt_zero k)
  rw [run_draw_beyond h hi] at hok
  cases hok

/-- Draws fault exactly when they need a byte that does not exist, unless the sprite has no rows and
I points further than just past the top of memory. A sprite without rows draws nothing and clears
the flag, save that it is refused there. -/
theorem drawsAsNeeded_iff (h : Instruction.decode word = .ok (.draw x y rows)) :
    (m.DrawsAsNeeded x y rows ↔ (rows = 0 → m.registers.index.toNat ≤ memorySize)) ∧
      (rows = 0 → (Instruction.draw x y rows).carryOut.run m =
        if m.registers.index.toNat ≤ memorySize then
          .ok () { m with registers := m.registers.setFlag false }
        else .error (.fault (.outOfBounds m.registers.index.toNat)) m) := by
  constructor
  · constructor
    · rintro hneeded rfl
      exact hneeded.within h
    · intro hempty
      constructor
      · intro addr hfirst
        obtain ⟨k, hk, hkaddr⟩ := hfirst.row
        have hbeyond := hfirst.beyond
        rw [run_draw_beyond h (by omega), hfirst.eq_max]
      · intro hexist
        have hn := ends_within hexist hempty
        exact ⟨_, liesAtIndex_sprite hn, run_draw_within h hn⟩
  · rintro rfl
    split
    · next hi => exact run_draw_within h hi
    · next hi => rw [run_draw_beyond h (Nat.lt_of_not_le hi), Nat.max_eq_left (by omega)]

/-- A machine whose I points further than just past the top of memory, with the flag set. -/
def pastTheTop : Machine Cyclic :=
  let m := Machine.powerOn (Cyclic.ofList []) .standard
  { m with registers := { m.registers.setFlag true with index := 0x1001 } }

/-- Past the top of memory a sprite of two rows is drawn as needed, and one without rows is refused.
-/
theorem drawsAsNeeded_iff_pastTheTop :
    (Instruction.decode 0xD012 = .ok (.draw 0 1 2) ∧
        Instruction.decode 0xD000 = .ok (.draw 0 0 0)) ∧
      pastTheTop.DrawsAsNeeded 0 1 2 ∧
      (Instruction.draw 0 0 0).carryOut.run pastTheTop =
        .error (.fault (.outOfBounds 0x1001)) pastTheTop := by
  have htwo : Instruction.decode 0xD012 = .ok (.draw 0 1 2) := rfl
  have hnone : Instruction.decode 0xD000 = .ok (.draw 0 0 0) := rfl
  exact ⟨⟨htwo, hnone⟩, (drawsAsNeeded_iff htwo).1.mpr (by decide),
    (drawsAsNeeded_iff hnone).2 rfl⟩

/-- A sprite without rows needs no byte, and its draw faults all the same. -/
theorem not_drawsAsNeeded_pastTheTop :
    Instruction.decode 0xD000 = .ok (.draw 0 0 0) ∧ ¬pastTheTop.DrawsAsNeeded 0 0 0 := by
  have hnone : Instruction.decode 0xD000 = .ok (.draw 0 0 0) := rfl
  refine ⟨hnone, fun hneeded ↦ ?_⟩
  have hi : pastTheTop.registers.index.toNat ≤ memorySize := hneeded.within hnone
  revert hi
  decide

end Machine
end Chip8
