import Chip8.Proofs.Pictures
import Chip8.Proofs.Sprites
import Chip8.Proofs.Storage

/-!
# Drawing a sprite twice

A sprite that is drawn twice at one place is gone again. The flag of the first draw says whether it
met a lit pixel there, that of the second whether it met a dark one, so that any sprite that is not
empty sets one of the two. An instruction that draws reads its place from registers and writes its
flag to another, and so it finds the same place the second time.
-/

namespace Chip8

namespace Framebuffer

/-- A set bit of a sprite falls on a pixel that is lit, or on one that is dark. -/
def Meets (f : Framebuffer) (x y : UInt8) (sprite : List UInt8) (on : Bool) : Prop :=
  ∃ p, 1 ≤ hits x.toNat y.toNat sprite p ∧ f.lit p = on

/-- A sprite drawn twice leaves the picture as it was. -/
theorem drawSprite_drawSprite (f : Framebuffer) (x y : UInt8) (sprite : List UInt8) :
    ((f.drawSprite x y sprite).1.drawSprite x y sprite).1 = f := by
  apply ext_lit
  intro p
  rw [lit_drawSprite, lit_drawSprite, iterate_not_twice]

/-- The flag of a sprite that does not go around the picture says whether it meets a lit pixel. -/
theorem flag_eq_true_iff_meets (f : Framebuffer) (x y : UInt8) {sprite : List UInt8}
    (h : sprite.length ≤ 32) : (f.drawSprite x y sprite).2 = true ↔ f.Meets x y sprite true := by
  rw [flag_drawSprite]
  exact exists_congr fun p ↦ switchedOff_iff_of_le_one _ (hits_le_one _ _ h p)

/-- A sprite that has been drawn once meets lit pixels where it met dark ones before. -/
theorem meets_drawSprite (f : Framebuffer) (x y : UInt8) {sprite : List UInt8}
    (h : sprite.length ≤ 32) (on : Bool) :
    (f.drawSprite x y sprite).1.Meets x y sprite on ↔ f.Meets x y sprite (!on) := by
  apply exists_congr
  intro p
  apply and_congr_right
  intro hp
  have hone : hits x.toNat y.toNat sprite p = 1 := Nat.le_antisymm (hits_le_one _ _ h p) hp
  rw [lit_drawSprite, hone, Function.iterate_one, Bool.not_eq_eq_eq_not]

/-- A sprite with a set bit meets a pixel that is lit or dark. -/
theorem exists_meets (f : Framebuffer) (x y : UInt8) {sprite : List UInt8} {bits : UInt8}
    (hmem : bits ∈ sprite) (hbits : bits ≠ 0) : ∃ on, f.Meets x y sprite on := by
  obtain ⟨row, hrow, rfl⟩ := List.getElem_of_mem hmem
  obtain ⟨k, hk⟩ : ∃ k, sprite[row].toNat.testBit k = true := by
    apply Nat.exists_testBit_of_ne_zero
    intro hzero
    exact hbits (UInt8.toNat_inj.mp hzero)
  have hk8 : k < 8 := by
    apply Nat.lt_of_not_le
    intro hle
    have hlt : sprite[row].toNat < 2 ^ k :=
      Nat.lt_of_lt_of_le sprite[row].toNat_lt (Nat.pow_le_pow_right (by decide) hle)
    rw [Nat.testBit_lt_two_pow hlt] at hk
    cases hk
  refine ⟨_, wrap (x.toNat + (7 - k)) (y.toNat + row), ?_, rfl⟩
  apply Finset.card_pos.mpr
  refine ⟨(⟨row, hrow⟩, ⟨7 - k, by omega⟩), Finset.mem_filter.mpr ⟨Finset.mem_univ _, ?_⟩⟩
  have hback : 7 - (7 - k) = k := by omega
  exact ⟨hback.symm ▸ hk, (wrap_eq_iff _ _ _).mp rfl⟩

end Framebuffer

/-- The flag register holds one after a flag has been noted if and only if that flag was set. -/
theorem Registers.read_setFlag_eq_one_iff {r : Registers} {on : Bool} :
    (r.setFlag on).read flag = 1 ↔ on = true := by
  rw [read_setFlag_self]
  cases on with
  | false => decide
  | true => decide

namespace Machine

variable {ρ : Type} [RandomSource ρ] {m : Machine ρ} {word : UInt16} {x y rows : UInt8}

/-- The flag of a draw notes whether a pixel was switched off. -/
theorem flag_effect_draw :
    (m.effect (.draw x y rows)).v Registers.flag = 1 ↔ (m.drawn x y rows).2 = true :=
  Registers.read_setFlag_eq_one_iff

/-- The flag is none of the registers that say where to draw, so the next draw finds its sprite and
its place as they were. -/
theorem drawn_effect_draw (hx : x ≠ Registers.flag) (hy : y ≠ Registers.flag) :
    (m.effect (.draw x y rows)).drawn x y rows =
      (m.drawn x y rows).1.drawSprite (m.v x) (m.v y) (m.sprite rows) := by
  have hvx : (m.effect (.draw x y rows)).v x = m.v x := Registers.read_setFlag_of_ne hx
  have hvy : (m.effect (.draw x y rows)).v y = m.v y := Registers.read_setFlag_of_ne hy
  rw [drawn, hvx, hvy]
  rfl

/-- An instruction that draws and does not read its place from the flag draws twice at the same
place. The second draw brings the picture back. The flag of the first tells whether a set bit of the
sprite fell on a pixel that was lit before both, and that of the second whether one fell on a pixel
that was dark; one of the two is set if the sprite has a set bit at all. -/
theorem draw_twice_erases (h : Instruction.decode word = .ok (.draw x y rows))
    (hx : x ≠ Registers.flag) (hy : y ≠ Registers.flag)
    (hn : m.registers.index.toNat + rows.toNat ≤ memorySize) :
    ∃ sprite once twice, m.LiesAtIndex rows sprite ∧
      (Instruction.draw x y rows).carryOut.run m = .ok () once ∧
      (Instruction.draw x y rows).carryOut.run once = .ok () twice ∧
      twice.screen = m.screen ∧
      (once.v Registers.flag = 1 ↔ m.screen.Meets (m.v x) (m.v y) sprite true) ∧
      (twice.v Registers.flag = 1 ↔ m.screen.Meets (m.v x) (m.v y) sprite false) ∧
      ((∃ bits ∈ sprite, bits ≠ 0) →
        once.v Registers.flag = 1 ∨ twice.v Registers.flag = 1) := by
  have hrows : rows.toNat < 16 :=
    UInt8.lt_iff_toNat_lt.mp (Instruction.encodable_of_decode h).2.2
  have hsprite := liesAtIndex_sprite hn
  have hlength : (m.sprite rows).length ≤ 32 := by
    rw [hsprite.length]
    omega
  have honce : (m.effect (.draw x y rows)).v Registers.flag = 1 ↔
      m.screen.Meets (m.v x) (m.v y) (m.sprite rows) true := by
    rw [flag_effect_draw]
    exact Framebuffer.flag_eq_true_iff_meets _ _ _ hlength
  have htwice : ((m.effect (.draw x y rows)).effect (.draw x y rows)).v Registers.flag = 1 ↔
      m.screen.Meets (m.v x) (m.v y) (m.sprite rows) false := by
    rw [flag_effect_draw, drawn_effect_draw hx hy, Framebuffer.flag_eq_true_iff_meets _ _ _ hlength]
    exact Framebuffer.meets_drawSprite _ _ _ hlength true
  refine ⟨m.sprite rows, _, _, hsprite, run_draw_within h hn,
    run_draw_within (m := m.effect (.draw x y rows)) h hn, ?_, honce, htwice, ?_⟩
  · change ((m.effect (.draw x y rows)).drawn x y rows).1 = m.screen
    rw [drawn_effect_draw hx hy]
    exact Framebuffer.drawSprite_drawSprite _ _ _ _
  · rintro ⟨bits, hmem, hbits⟩
    obtain ⟨on, hmeets⟩ := Framebuffer.exists_meets m.screen (m.v x) (m.v y) hmem hbits
    cases on with
    | true => exact .inl (honce.mpr hmeets)
    | false => exact .inr (htwice.mpr hmeets)

/-- A machine whose picture has one pixel lit, in the bottom right corner, with two rows of a sprite
at the top of memory and a place in V0 and V1 from which it wraps around both edges. -/
def halfCovered : Machine Cyclic :=
  let m := Machine.powerOn (Cyclic.ofList []) .standard
  { m with
    memory := m.memory.put 0xFFE [0xC0, 0x80]
    registers := { (m.registers.write 0 63).write 1 31 with index := 0xFFE }
    screen := m.screen.flip (63, 31) }

/-- The sprite meets the lit pixel and dark ones, so that both draws set the flag. -/
theorem draw_twice_erases_halfCovered :
    (Instruction.decode 0xD012 = .ok (.draw 0 1 2) ∧ 0 ≠ Registers.flag ∧ 1 ≠ Registers.flag ∧
        halfCovered.registers.index.toNat + (2 : UInt8).toNat ≤ memorySize) ∧
      ∃ once twice, (Instruction.draw 0 1 2).carryOut.run halfCovered = .ok () once ∧
        (Instruction.draw 0 1 2).carryOut.run once = .ok () twice ∧
        twice.screen = halfCovered.screen ∧ once.v Registers.flag = 1 ∧
        twice.v Registers.flag = 1 := by
  have hword : Instruction.decode 0xD012 = .ok (.draw 0 1 2) := rfl
  have h0 : 0 ≠ Registers.flag := by decide
  have h1 : 1 ≠ Registers.flag := by decide
  have hn : halfCovered.registers.index.toNat + (2 : UInt8).toNat ≤ memorySize := by decide
  obtain ⟨sprite, once, twice, hsprite, hrun, hrun', hscreen, honce, htwice, -⟩ :=
    draw_twice_erases hword h0 h1 hn
  have hbytes : sprite = [0xC0, 0x80] := hsprite.eq_sprite.trans (Memory.window_put hn)
  refine ⟨⟨hword, h0, h1, hn⟩, once, twice, hrun, hrun', hscreen, ?_, ?_⟩
  · rw [honce, hbytes]
    exact ⟨(63, 31), by decide +kernel, by decide +kernel⟩
  · rw [htwice, hbytes]
    exact ⟨(0, 31), by decide +kernel, by decide +kernel⟩

end Machine
end Chip8
