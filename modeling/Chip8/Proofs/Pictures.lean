import Mathlib.Algebra.BigOperators.Group.List.Basic
import Chip8.Proofs.Drawing

/-!
# Drawing many sprites

After any number of sprites the picture depends only on how many set bits fell on each pixel, and
so does whether some flag said that a pixel was switched off. Neither depends on the order of the
sprites, although a single flag does. Drawn again, in any order, they are gone.
-/

namespace Chip8.Framebuffer

/-- A sprite and the column and row of its top left corner. -/
structure Stamp where
  x : UInt8
  y : UInt8
  sprite : List UInt8

/-- Draw sprites one after the other: the last picture, and all flags in order. -/
def drawAll (f : Framebuffer) : List Stamp → Framebuffer × List Bool
  | [] => (f, [])
  | d :: rest =>
    let (drawn, flag) := f.drawSprite d.x d.y d.sprite
    let (last, flags) := drawn.drawAll rest
    (last, flag :: flags)

/-- How many set bits of some sprites fall on a pixel. -/
def landings (ds : List Stamp) (p : Pixel) : Nat :=
  (ds.map fun d ↦ hits d.x.toNat d.y.toNat d.sprite p).sum

/-- The last picture is that of the sprites behind the first, drawn after it. -/
theorem drawAll_cons_fst (f : Framebuffer) (d : Stamp) (ds : List Stamp) :
    (f.drawAll (d :: ds)).1 = ((f.drawSprite d.x d.y d.sprite).1.drawAll ds).1 := rfl

/-- The flag of the first sprite comes before those of the others. -/
theorem drawAll_cons_snd (f : Framebuffer) (d : Stamp) (ds : List Stamp) :
    (f.drawAll (d :: ds)).2 =
      (f.drawSprite d.x d.y d.sprite).2 :: ((f.drawSprite d.x d.y d.sprite).1.drawAll ds).2 := rfl

/-- The bits that fall on a pixel are those of the first sprite and those of the others. -/
theorem landings_cons (d : Stamp) (ds : List Stamp) (p : Pixel) :
    landings (d :: ds) p = hits d.x.toNat d.y.toNat d.sprite p + landings ds p := by
  rw [landings, List.map_cons, List.sum_cons, landings]

/-- Bits fall where they fall in any order. -/
theorem landings_of_perm {ds es : List Stamp} (h : ds.Perm es) : landings ds = landings es := by
  funext p
  exact (h.map _).sum_eq

/-- A pixel is switched over once for each bit that falls on it. -/
theorem lit_drawAll (f : Framebuffer) (ds : List Stamp) (p : Pixel) :
    (f.drawAll ds).1.lit p = not^[landings ds p] (f.lit p) := by
  induction ds generalizing f with
  | nil => rfl
  | cons d ds ih =>
    rw [drawAll_cons_fst, ih, lit_drawSprite, landings_cons, Nat.add_comm,
      Function.iterate_add_apply]

/-- A pixel is switched off in some flips or in those after them. -/
theorem switchedOff_add (lit : Bool) (first later : Nat) :
    SwitchedOff lit (first + later) ↔
      SwitchedOff lit first ∨ SwitchedOff (not^[first] lit) later := by
  induction first generalizing lit with
  | zero => simp [SwitchedOff]
  | succ first ih =>
    rw [Nat.add_right_comm, switchedOff_succ, ih, switchedOff_succ, or_assoc,
      Function.iterate_succ_apply]

/-- Some flag is set if and only if the bits of all sprites together switch a pixel off. -/
theorem flag_drawAll (f : Framebuffer) (ds : List Stamp) :
    true ∈ (f.drawAll ds).2 ↔ ∃ p, SwitchedOff (f.lit p) (landings ds p) := by
  induction ds generalizing f with
  | nil => simp [drawAll, landings, SwitchedOff]
  | cons d ds ih =>
    simp only [drawAll_cons_snd, List.mem_cons, ih, eq_comm (a := true), flag_drawSprite,
      lit_drawSprite, landings_cons, switchedOff_add, exists_or]

/-- Switching a pixel over twice as often as any number of times brings it back. -/
theorem iterate_not_twice (flips : Nat) (lit : Bool) : not^[flips] (not^[flips] lit) = lit := by
  rw [← Function.iterate_add_apply, ← Nat.two_mul, Bool.involutive_not.iterate_two_mul]
  rfl

/-- Sprites make the same picture in every order, and whether one of their flags is set is the same,
too. Drawing them a second time, in any order, takes them away again. -/
theorem drawAll_any_order (f : Framebuffer) {ds es : List Stamp} (h : ds.Perm es) :
    (f.drawAll es).1 = (f.drawAll ds).1 ∧
      (true ∈ (f.drawAll es).2 ↔ true ∈ (f.drawAll ds).2) ∧
      ((f.drawAll ds).1.drawAll es).1 = f := by
  have hsame : landings es = landings ds := landings_of_perm h.symm
  refine ⟨?_, ?_, ?_⟩
  · apply ext_lit
    intro p
    rw [lit_drawAll, lit_drawAll, hsame]
  · rw [flag_drawAll, flag_drawAll, hsame]
  · apply ext_lit
    intro p
    rw [lit_drawAll, lit_drawAll, hsame, iterate_not_twice]

/-- Two pixels side by side, each by itself and then both at once, from a corner one screen further
to the right. -/
def overlapping : List Stamp := [⟨0, 0, [0x80]⟩, ⟨0, 0, [0x40]⟩, ⟨64, 0, [0xC0]⟩]

/-- From the back, one flag more of the overlapping sprites is set, but the picture is the same. -/
theorem drawAll_any_order_overlapping :
    overlapping.Perm overlapping.reverse ∧
      (blank.drawAll overlapping).2 = [false, false, true] ∧
      (blank.drawAll overlapping.reverse).2 = [false, true, true] ∧
      (blank.drawAll overlapping.reverse).1 = (blank.drawAll overlapping).1 ∧
      (true ∈ (blank.drawAll overlapping.reverse).2 ↔ true ∈ (blank.drawAll overlapping).2) ∧
      ((blank.drawAll overlapping).1.drawAll overlapping.reverse).1 = blank := by
  have hperm : overlapping.Perm overlapping.reverse := overlapping.reverse_perm.symm
  refine ⟨hperm, ?_, ?_, drawAll_any_order blank hperm⟩
  · decide +kernel
  · decide +kernel

end Chip8.Framebuffer
