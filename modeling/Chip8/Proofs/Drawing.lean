import Mathlib.Algebra.BigOperators.Fin
import Mathlib.Data.Nat.Count
import Chip8.Framebuffer

/-!
# Drawing

What a sprite does to the picture depends only on how many of its set bits fall on each pixel: a
pixel is switched over that many times, and the flag says whether one of these times switched it
off. A sprite of up to 32 rows does not go around the picture, so that at most one bit falls on a
pixel.
-/

namespace Chip8.Framebuffer

/-! ### Flipping one pixel after the other -/

/-- A pixel is switched off in one of a number of flips. -/
def SwitchedOff (lit : Bool) (flips : Nat) : Prop := 2 ≤ flips ∨ 1 ≤ flips ∧ lit = true

/-- A pixel is switched off by the first of some flips if it was lit, or else by one of the others.
-/
theorem switchedOff_succ (lit : Bool) (flips : Nat) :
    SwitchedOff lit (flips + 1) ↔ lit = true ∨ SwitchedOff (!lit) flips := by
  simp only [SwitchedOff]
  cases lit
  · simp
    omega
  · simp

/-- By no more than one flip a pixel is switched off if there is one and the pixel was lit. -/
theorem switchedOff_iff_of_le_one (lit : Bool) {flips : Nat} (h : flips ≤ 1) :
    SwitchedOff lit flips ↔ 1 ≤ flips ∧ lit = true := by
  have hnot : ¬2 ≤ flips := by omega
  simp only [SwitchedOff, hnot, false_or]

/-- Flipping pixels one after the other flips each as often as it is named. -/
theorem lit_foldl_strike (ps : List Pixel) (state : Framebuffer × Bool) (q : Pixel) :
    (ps.foldl strike state).1.lit q = not^[ps.count q] (state.1.lit q) := by
  induction ps generalizing state with
  | nil => rfl
  | cons p ps ih =>
    rw [List.foldl_cons, ih, List.count_cons, strike, lit_flip]
    by_cases h : p = q
    · rw [if_pos h, beq_iff_eq.mpr h, if_pos rfl, Function.iterate_succ_apply]
    · rw [if_neg h, beq_eq_false_iff_ne.mpr h, if_neg Bool.false_ne_true, Nat.add_zero]

/-- A pixel is switched off by the flips of a list if and only if the first of them does so or one
is switched off by the others. -/
theorem exists_switchedOff_cons (f : Framebuffer) (p : Pixel) (ps : List Pixel) :
    (∃ q, SwitchedOff (f.lit q) ((p :: ps).count q)) ↔
      f.lit p = true ∨ ∃ q, SwitchedOff ((f.flip p).lit q) (ps.count q) := by
  have same : ∀ q, p ≠ q → (SwitchedOff (f.lit q) ((p :: ps).count q) ↔
      SwitchedOff ((f.flip p).lit q) (ps.count q)) := by
    intro q h
    rw [List.count_cons_of_ne h, lit_flip, if_neg h]
  have struck : SwitchedOff (f.lit p) ((p :: ps).count p) ↔
      f.lit p = true ∨ SwitchedOff ((f.flip p).lit p) (ps.count p) := by
    rw [List.count_cons_self, switchedOff_succ, lit_flip, if_pos rfl]
  constructor
  · rintro ⟨q, hq⟩
    by_cases h : p = q
    · subst h
      exact (struck.mp hq).imp_right fun hp ↦ ⟨p, hp⟩
    · exact .inr ⟨q, (same q h).mp hq⟩
  · rintro (hp | ⟨q, hq⟩)
    · exact ⟨p, struck.mpr (.inl hp)⟩
    · by_cases h : p = q
      · subst h
        exact ⟨p, struck.mpr (.inr hq)⟩
      · exact ⟨q, (same q h).mpr hq⟩

/-- The flag of striking pixels one after the other says whether one was switched off. -/
theorem flag_foldl_strike (ps : List Pixel) (state : Framebuffer × Bool) :
    (ps.foldl strike state).2 = true ↔
      state.2 = true ∨ ∃ q, SwitchedOff (state.1.lit q) (ps.count q) := by
  induction ps generalizing state with
  | nil => simp [SwitchedOff]
  | cons p ps ih =>
    rw [List.foldl_cons, ih, exists_switchedOff_cons, ← or_assoc, strike, Bool.or_eq_true]

/-! ### The bits of a sprite -/

/-- How many set bits of a sprite fall on a pixel when its top left corner lies at column `x`, row
`y`. The leftmost bit of a row is its most significant one. -/
def hits (x y : Nat) (sprite : List UInt8) (p : Pixel) : Nat :=
  (Finset.univ.filter fun bit : Fin sprite.length × Fin 8 ↦
    sprite[bit.1].toNat.testBit (7 - bit.2) = true ∧
      (x + bit.2) % 64 = p.1 ∧ (y + bit.1) % 32 = p.2).card

/-- A pixel past the edges is a given one if its column and row are, counted around. -/
theorem wrap_eq_iff (x y : Nat) (p : Pixel) : wrap x y = p ↔ x % 64 = p.1 ∧ y % 32 = p.2 := by
  rw [Prod.ext_iff, Fin.ext_iff, Fin.ext_iff]
  rfl

/-- A row names a pixel once for each of its set bits that falls on it. -/
theorem count_rowTargets (x y : Nat) (bits : UInt8) (p : Pixel) :
    (rowTargets x y bits).count p = ∑ c : Fin 8,
      if bits.toNat.testBit (7 - c) = true ∧ (x + c) % 64 = p.1 ∧ y % 32 = p.2 then 1 else 0 := by
  calc (rowTargets x y bits).count p
      = Nat.count (fun c ↦ bits.toNat.testBit (7 - c) = true ∧ (x + c) % 64 = p.1 ∧ y % 32 = p.2)
          8 := by
        rw [rowTargets, List.count, List.countP_map, List.countP_filter, Nat.count]
        apply List.countP_congr
        intro c _
        simp only [Function.comp_apply, Bool.and_eq_true, beq_iff_eq, wrap_eq_iff,
          decide_eq_true_eq]
        exact and_comm
    _ = ∑ c : Fin 8,
          if bits.toNat.testBit (7 - c) = true ∧ (x + c) % 64 = p.1 ∧ y % 32 = p.2
          then 1 else 0 := by
        rw [Nat.count_eq_card_filter_range, Finset.card_filter, Finset.sum_range]

/-- The bits that fall on a pixel are those of the first row and those of the rows below. -/
theorem hits_cons (x y : Nat) (bits : UInt8) (sprite : List UInt8) (p : Pixel) :
    hits x y (bits :: sprite) p = (rowTargets x y bits).count p + hits x (y + 1) sprite p := by
  have below : ∀ r : Nat, y + 1 + r = y + (r + 1) := by
    intro r
    omega
  simp only [hits, Finset.card_filter, Fintype.sum_prod_type, count_rowTargets, below]
  exact Fin.sum_univ_succ _

/-- A sprite names a pixel once for each of its set bits that falls on it. -/
theorem count_targets (x y : Nat) (sprite : List UInt8) (p : Pixel) :
    (targets x y sprite).count p = hits x y sprite p := by
  -- The rows below the first are a sprite that begins one row lower.
  induction sprite generalizing y with
  | nil => rfl
  | cons bits sprite ih =>
    rw [hits_cons, ← ih, targets, List.zipIdx_cons, List.flatMap_cons, List.count_append]
    rfl

/-- At most one bit of a sprite that does not go around the picture falls on a pixel. -/
theorem hits_le_one (x y : Nat) {sprite : List UInt8} (h : sprite.length ≤ 32) (p : Pixel) :
    hits x y sprite p ≤ 1 := by
  apply Finset.card_le_one.mpr
  intro bit hbit bit' hbit'
  obtain ⟨-, hx, hy⟩ := (Finset.mem_filter.mp hbit).2
  obtain ⟨-, hx', hy'⟩ := (Finset.mem_filter.mp hbit').2
  apply Prod.ext
  · apply Fin.ext
    omega
  · apply Fin.ext
    omega

/-- A sprite of one row more comes back to where it began. -/
example : hits 0 0 (List.replicate 33 0x80) (0, 0) = 2 := by decide +kernel

/-! ### Drawing -/

/-- Drawing a sprite switches each pixel over once for each set bit that falls on it. -/
theorem lit_drawSprite (f : Framebuffer) (x y : UInt8) (sprite : List UInt8) (p : Pixel) :
    (f.drawSprite x y sprite).1.lit p = not^[hits x.toNat y.toNat sprite p] (f.lit p) := by
  rw [drawSprite, lit_foldl_strike, count_targets]

/-- The flag of drawing a sprite says whether a pixel was switched off. -/
theorem flag_drawSprite (f : Framebuffer) (x y : UInt8) (sprite : List UInt8) :
    (f.drawSprite x y sprite).2 = true ↔
      ∃ p, SwitchedOff (f.lit p) (hits x.toNat y.toNat sprite p) := by
  simp only [drawSprite, flag_foldl_strike, Bool.false_eq_true, false_or, count_targets]

/-- Drawing a sprite is exclusive or on the torus: each pixel is switched over once for each set bit
that falls on it, and the flag says whether two bits fell on a pixel or one on a lit pixel. Up to
32 rows, it says whether one fell on a lit pixel. -/
theorem drawSprite_exact (f : Framebuffer) (x y : UInt8) (sprite : List UInt8) :
    (∀ p, (f.drawSprite x y sprite).1.lit p = not^[hits x.toNat y.toNat sprite p] (f.lit p)) ∧
      ((f.drawSprite x y sprite).2 = true ↔
        ∃ p, 2 ≤ hits x.toNat y.toNat sprite p ∨
          1 ≤ hits x.toNat y.toNat sprite p ∧ f.lit p = true) ∧
      (sprite.length ≤ 32 → ((f.drawSprite x y sprite).2 = true ↔
        ∃ p, 1 ≤ hits x.toNat y.toNat sprite p ∧ f.lit p = true)) := by
  refine ⟨lit_drawSprite f x y sprite, flag_drawSprite f x y sprite, fun h ↦ ?_⟩
  rw [flag_drawSprite]
  exact exists_congr fun p ↦ switchedOff_iff_of_le_one _ (hits_le_one _ _ h p)

end Chip8.Framebuffer
