import Mathlib.Data.Nat.Bitwise
import Chip8.Proofs.Effect

/-!
# Arithmetic with a flag

Five instructions note what does not fit into a byte. The byte they leave in VX and the flag in VF
tell together the exact sum, difference or shifted number. The numbers are those that stood in
their registers before the instruction, whichever registers it names, and if VX is VF itself, the
flag is what stays in it.
-/

namespace Chip8

/-! ### Bytes and what does not fit into them -/

namespace Byte

private theorem toNat_decide (p : Prop) [Decidable p] :
    (decide p).toNat = if p then 1 else 0 := by
  by_cases h : p
  · rw [decide_eq_true h, if_pos h, Bool.toNat_true]
  · rw [decide_eq_false h, if_neg h, Bool.toNat_false]

/-- A sum is its byte and a carry. -/
theorem add_carry (a b : UInt8) :
    256 * (decide (0xFF < a.toNat + b.toNat)).toNat + (a + b).toNat = a.toNat + b.toNat := by
  have ha := a.toNat_lt
  have hb := b.toNat_lt
  rw [UInt8.toNat_add, toNat_decide]
  split
  · omega
  · omega

/-- A difference is its byte, less 256 unless the flag says that nothing was borrowed. -/
theorem sub_borrow (a b : UInt8) :
    (a - b).toNat + b.toNat = a.toNat + 256 * (1 - (decide (b ≤ a)).toNat) := by
  have ha := a.toNat_lt
  have hb := b.toNat_lt
  simp only [UInt8.toNat_sub, toNat_decide, UInt8.le_iff_toNat_le]
  split
  · omega
  · omega

/-- The lowest bit is set in odd numbers. -/
theorem lowest_bit (s : UInt8) : (s &&& 0x01 != 0) = decide (s.toNat % 2 = 1) := by
  have hand : (s &&& 0x01).toNat = s.toNat % 2 := by
    rw [UInt8.toNat_and]
    exact Nat.and_one_is_mod _
  rw [Bool.eq_iff_iff, bne_iff_ne, ne_eq, ← UInt8.toNat_inj, hand, decide_eq_true_iff]
  exact Nat.mod_two_ne_zero

/-- The highest bit is set from 128 on. -/
theorem highest_bit (s : UInt8) : (s &&& 0x80 != 0) = decide (0x80 ≤ s.toNat) := by
  have hs := s.toNat_lt
  have hand : (s &&& 0x80).toNat = (s.toNat.testBit 7).toNat * 0x80 := by
    rw [UInt8.toNat_and]
    exact Nat.and_two_pow _ 7
  have hbit : s.toNat.testBit 7 = decide (0x80 ≤ s.toNat) := by
    rw [Nat.testBit_eq_decide_div_mod_eq, decide_eq_decide]
    omega
  rw [Bool.eq_iff_iff, bne_iff_ne, ne_eq, ← UInt8.toNat_inj, hand, hbit]
  by_cases h : 0x80 ≤ s.toNat
  · simp [h]
  · simp [h]

/-- A number is twice its half and the bit that falls out. -/
theorem shiftRight_out (s : UInt8) : 2 * (s >>> 1).toNat + (s &&& 0x01 != 0).toNat = s.toNat := by
  have hhalf : (s >>> 1).toNat = s.toNat / 2 := by
    rw [UInt8.toNat_shiftRight]
    exact Nat.shiftRight_one _
  rw [hhalf, lowest_bit, toNat_decide]
  split
  · omega
  · omega

/-- Twice a number is its byte and the bit that falls out. -/
theorem shiftLeft_out (s : UInt8) :
    256 * (s &&& 0x80 != 0).toNat + (s <<< 1).toNat = 2 * s.toNat := by
  have hs := s.toNat_lt
  have htwice : (s <<< 1).toNat = 2 * s.toNat % 256 := by
    rw [UInt8.toNat_shiftLeft, Nat.shiftLeft_eq, Nat.mul_comm]
    rfl
  rw [htwice, highest_bit, toNat_decide]
  split
  · omega
  · omega

end Byte

/-! ### The instructions -/

namespace Machine

variable {ρ : Type}

/-- What arithmetic makes of a machine: a flag in VF that tells whether a condition holds, and in
VX, unless that is VF, a byte that with the flag satisfies an equation. All else stays. -/
structure Calculated (m after : Machine ρ) (x : UInt8) (condition : Prop)
    (equation : Nat → Nat → Prop) : Prop where
  flag : after.v Registers.flag = 1 ∧ condition ∨ after.v Registers.flag = 0 ∧ ¬ condition
  result : x ≠ Registers.flag → equation (after.v x).toNat (after.v Registers.flag).toNat
  others : ∀ z, z ≠ x → z ≠ Registers.flag → after.v z = m.v z
  rest : ∃ v, after = { m with registers := { m.registers with v } }

/-- An instruction succeeds, and the machine after it has calculated. -/
def Calculates [RandomSource ρ] (m : Machine ρ) (i : Instruction) (x : UInt8) (condition : Prop)
    (equation : Nat → Nat → Prop) : Prop :=
  ∃ after, i.carryOut.run m = .ok () after ∧ m.Calculated after x condition equation

section

variable {m : Machine ρ} {x value : UInt8} {on : Bool} {condition : Prop}
  {equation : Nat → Nat → Prop}

/-- The flag is one if the condition holds. -/
theorem Calculated.flag_eq_one {after : Machine ρ} (h : m.Calculated after x condition equation)
    (hc : condition) : after.v Registers.flag = 1 := by
  rcases h.flag with ⟨hone, -⟩ | ⟨-, hnot⟩
  · exact hone
  · exact absurd hc hnot

/-- Writing a byte and then the flag is arithmetic if the two satisfy the equation. -/
theorem calculated_of_write (hx : x < 16) (hc : on = true ↔ condition)
    (he : equation value.toNat on.toNat) :
    m.Calculated { m with registers := (m.registers.write x value).setFlag on } x condition
      equation where
  flag := by
    rw [v, Registers.read_setFlag_self, ← hc]
    cases on with
    | false => exact .inr ⟨rfl, Bool.false_ne_true⟩
    | true => exact .inl ⟨rfl, rfl⟩
  result hne := by
    have hflag : (if on then 1 else 0 : UInt8).toNat = on.toNat := by
      cases on with
      | false => rfl
      | true => rfl
    rw [v, v, Registers.read_setFlag_self, Registers.read_setFlag_of_ne hne,
      Registers.read_write_self hx, hflag]
    exact he
  others _ hzx hzf := Registers.read_setFlag_write_of_ne hzx hzf
  rest := ⟨_, rfl⟩

/-- An instruction that writes a byte and then the flag calculates if the two satisfy the equation.
-/
theorem calculates_of_run [RandomSource ρ] {i : Instruction} (hx : x < 16)
    (hrun : i.carryOut.run m =
      .ok () { m with registers := (m.registers.write x value).setFlag on })
    (hc : on = true ↔ condition) (he : equation value.toNat on.toNat) :
    m.Calculates i x condition equation :=
  ⟨_, hrun, calculated_of_write hx hc he⟩

end

/-- Sums, differences and shifts are exact, with the flag for what does not fit into a byte, under
every choice of registers. -/
theorem arithmetic_exact [RandomSource ρ] (m : Machine ρ) {x y : UInt8} (hx : x < 16)
    (hy : y < 16) :
    let a := (m.v x).toNat
    let b := (m.v y).toNat
    let s := (m.v (shiftOperand m.dialect x y)).toNat
    m.Calculates (.add x y) x (0xFF < a + b) (fun vx vf ↦ 256 * vf + vx = a + b) ∧
      m.Calculates (.sub x y) x (b ≤ a) (fun vx vf ↦ vx + b = a + 256 * (1 - vf)) ∧
      m.Calculates (.subFrom x y) x (a ≤ b) (fun vx vf ↦ vx + a = b + 256 * (1 - vf)) ∧
      m.Calculates (.shiftRight x y) x (s % 2 = 1) (fun vx vf ↦ 2 * vx + vf = s) ∧
      m.Calculates (.shiftLeft x y) x (0x80 ≤ s) (fun vx vf ↦ 256 * vf + vx = 2 * s) := by
  intro a b s
  refine ⟨?_, ?_, ?_, ?_, ?_⟩
  · exact calculates_of_run hx (Instruction.run_carryOut m (i := .add x y) ⟨hx, hy⟩)
      decide_eq_true_iff (Byte.add_carry _ _)
  · have hc : decide (m.v y ≤ m.v x) = true ↔ b ≤ a :=
      decide_eq_true_iff.trans UInt8.le_iff_toNat_le
    exact calculates_of_run hx (Instruction.run_carryOut m (i := .sub x y) ⟨hx, hy⟩) hc
      (Byte.sub_borrow _ _)
  · have hc : decide (m.v x ≤ m.v y) = true ↔ a ≤ b :=
      decide_eq_true_iff.trans UInt8.le_iff_toNat_le
    exact calculates_of_run hx (Instruction.run_carryOut m (i := .subFrom x y) ⟨hx, hy⟩) hc
      (Byte.sub_borrow _ _)
  · have hc : (m.v (shiftOperand m.dialect x y) &&& 0x01 != 0) = true ↔ s % 2 = 1 := by
      rw [Byte.lowest_bit, decide_eq_true_iff]
    exact calculates_of_run hx (Instruction.run_carryOut m (i := .shiftRight x y) ⟨hx, hy⟩) hc
      (Byte.shiftRight_out _)
  · have hc : (m.v (shiftOperand m.dialect x y) &&& 0x80 != 0) = true ↔ 0x80 ≤ s := by
      rw [Byte.highest_bit, decide_eq_true_iff]
    exact calculates_of_run hx (Instruction.run_carryOut m (i := .shiftLeft x y) ⟨hx, hy⟩) hc
      (Byte.shiftLeft_out _)

/-- A machine with 200 in V3 and 100 in VF, that shifts VY. -/
def withFlagInUse : Machine Cyclic :=
  let m := Machine.powerOn (Cyclic.ofList []) ⟨.vy, .fault⟩
  { m with registers := (m.registers.write 3 200).write Registers.flag 100 }

/-- Adding both registers into VF keeps the carry alone, taking VF from V3 notes in VF that nothing
was borrowed, and V3 is doubled into itself. -/
theorem arithmetic_exact_flagInUse :
    ((3 : UInt8) < 16 ∧ Registers.flag < 16) ∧
      (∃ after, (Instruction.add Registers.flag 3).carryOut.run withFlagInUse = .ok () after ∧
        after.v Registers.flag = 1 ∧ after.v 3 = 200) ∧
      (∃ after, (Instruction.sub 3 Registers.flag).carryOut.run withFlagInUse = .ok () after ∧
        after.v Registers.flag = 1 ∧ (after.v 3).toNat = 100) ∧
      ∃ after, (Instruction.shiftLeft 3 3).carryOut.run withFlagInUse = .ok () after ∧
        after.v Registers.flag = 1 ∧ (after.v 3).toNat = 144 := by
  have h3 : (3 : UInt8) < 16 := by decide
  have hf : Registers.flag < 16 := by decide
  have hv3 : (withFlagInUse.v 3).toNat = 200 := by decide
  have hvf : (withFlagInUse.v Registers.flag).toNat = 100 := by decide
  have hne : 3 ≠ Registers.flag := by decide
  refine ⟨⟨h3, hf⟩, ?_, ?_, ?_⟩
  · obtain ⟨after, hrun, hcalc⟩ := (arithmetic_exact withFlagInUse hf h3).1
    refine ⟨after, hrun, hcalc.flag_eq_one (by decide), ?_⟩
    rw [hcalc.others 3 hne hne]
    decide
  · obtain ⟨after, hrun, hcalc⟩ := (arithmetic_exact withFlagInUse h3 hf).2.1
    have hone := hcalc.flag_eq_one (by decide)
    have hresult := hcalc.result hne
    rw [hone, hv3, hvf] at hresult
    exact ⟨after, hrun, hone, Nat.add_right_cancel hresult⟩
  · obtain ⟨after, hrun, hcalc⟩ := (arithmetic_exact withFlagInUse h3 h3).2.2.2.2
    have hone := hcalc.flag_eq_one (by decide)
    have hresult := hcalc.result hne
    have hsource : (withFlagInUse.v (shiftOperand withFlagInUse.dialect 3 3)).toNat = 200 := hv3
    rw [hone, hsource] at hresult
    exact ⟨after, hrun, hone, Nat.add_left_cancel hresult⟩

end Machine
end Chip8
