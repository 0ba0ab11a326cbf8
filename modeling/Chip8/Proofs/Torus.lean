import Mathlib.Algebra.Group.Fin.Basic
import Mathlib.Algebra.Group.Prod
import Mathlib.Data.List.Basic
import Chip8.Framebuffer

/-!
# The picture is a torus

Columns and rows are counted around the picture, so that its pixels can be added like the hours of
a clock. No place of the picture is special to a sprite: moved along with the picture it does the
same there, and what is drawn below its first rows is a sprite of its own.
-/

namespace Chip8.Framebuffer

/-! ### Counting around the picture -/

/-- Steps past the edges add up. -/
theorem wrap_add (x y dx dy : Nat) : wrap (x + dx) (y + dy) = wrap x y + wrap dx dy := by
  apply Prod.ext
  · apply Fin.ext
    exact Nat.add_mod x dx 64
  · apply Fin.ext
    exact Nat.add_mod y dy 32

/-- A byte goes around the picture a whole number of times before it overflows. -/
theorem wrap_mod (x y : Nat) : wrap (x % 256) (y % 256) = wrap x y := by
  apply Prod.ext
  · apply Fin.ext
    exact Nat.mod_mod_of_dvd x (by decide)
  · apply Fin.ext
    exact Nat.mod_mod_of_dvd y (by decide)

/-- Steps past the edges add up even if their bytes overflow. -/
theorem wrap_toNat_add (x y dx dy : UInt8) :
    wrap (x + dx).toNat (y + dy).toNat = wrap x.toNat y.toNat + wrap dx.toNat dy.toNat := by
  rw [UInt8.toNat_add, UInt8.toNat_add, wrap_mod, wrap_add]

private theorem map_add_map (ps : List Pixel) (d e : Pixel) :
    (ps.map (· + d)).map (· + e) = ps.map (· + (d + e)) := by
  rw [List.map_map]
  apply List.map_congr_left
  intro p _
  exact add_assoc p d e

/-- The pixels under a row of a sprite lie around its corner. -/
theorem rowTargets_eq_map (x y : Nat) (bits : UInt8) :
    rowTargets x y bits = (rowTargets 0 0 bits).map (· + wrap x y) := by
  rw [rowTargets, rowTargets, List.map_map]
  apply List.map_congr_left
  intro c _
  rw [Function.comp_apply, ← wrap_add, Nat.zero_add, Nat.zero_add, Nat.add_comm]

/-- The pixels under a sprite lie around its corner, row by row. -/
theorem targets_eq_map (x y : Nat) (sprite : List UInt8) :
    targets x y sprite = (targets 0 0 sprite).map (· + wrap x y) := by
  rw [targets, targets, List.zipIdx_eq_map_add, List.flatMap_map, List.map_flatMap]
  apply List.flatMap_congr
  rintro ⟨bits, row⟩ _
  change rowTargets x (y + row) bits = (rowTargets 0 row bits).map (· + wrap x y)
  rw [rowTargets_eq_map, rowTargets_eq_map 0 row, map_add_map, ← wrap_add, Nat.zero_add,
    Nat.add_comm row]

/-- The pixels under a sprite depend only on the pixel in its corner. -/
theorem targets_congr {x y x' y' : Nat} (h : wrap x y = wrap x' y') (sprite : List UInt8) :
    targets x y sprite = targets x' y' sprite := by
  rw [targets_eq_map, h, ← targets_eq_map]

/-! ### Moving the picture -/

/-- The picture moved right and down by the column and the row of `d`. What leaves it comes back on
the other side. -/
def rotate (f : Framebuffer) (d : Pixel) : Framebuffer :=
  ⟨Vector.ofFn fun i ↦ f.lit (wrap i (i / 64) - d)⟩

/-- A pixel shows what was as far above and to the left of it. -/
theorem lit_rotate (f : Framebuffer) (d p : Pixel) : (f.rotate d).lit p = f.lit (p - d) := by
  have hcell : wrap (cell p) (cell p / 64) = p := by
    apply Prod.ext
    · apply Fin.ext
      change (64 * p.2.val + p.1.val) % 64 = p.1.val
      omega
    · apply Fin.ext
      change (64 * p.2.val + p.1.val) / 64 % 32 = p.2.val
      omega
  rw [lit, rotate, Fin.getElem_fin, Vector.getElem_ofFn]
  exact congrArg (fun q ↦ f.lit (q - d)) hcell

/-- Where a pixel has gone it is found again. -/
theorem lit_rotate_add (f : Framebuffer) (d p : Pixel) : (f.rotate d).lit (p + d) = f.lit p := by
  rw [lit_rotate, add_sub_cancel_right]

/-- A pixel can be switched over before it is moved or after. -/
theorem flip_rotate (f : Framebuffer) (d p : Pixel) :
    (f.rotate d).flip (p + d) = (f.flip p).rotate d := by
  apply ext_lit
  intro q
  rw [lit_flip, lit_rotate, lit_rotate, lit_flip]
  simp only [eq_sub_iff_add_eq]

/-- What has been drawn so far, moved along with the picture. -/
def rotateState (d : Pixel) (state : Framebuffer × Bool) : Framebuffer × Bool :=
  (state.1.rotate d, state.2)

/-- Striking a pixel of the moved picture is striking it before. -/
theorem strike_rotateState (d p : Pixel) (state : Framebuffer × Bool) :
    strike (rotateState d state) (p + d) = rotateState d (strike state p) := by
  rw [strike, rotateState, rotateState, flip_rotate, lit_rotate_add]
  rfl

/-- Striking the pixels of a list in the moved picture is striking them before. -/
theorem foldl_strike_rotateState (d : Pixel) (ps : List Pixel) (state : Framebuffer × Bool) :
    (ps.map (· + d)).foldl strike (rotateState d state) =
      rotateState d (ps.foldl strike state) := by
  rw [List.foldl_map]
  exact List.foldl_hom (rotateState d) fun state p ↦ strike_rotateState d p state

/-- A sprite moved along with the picture is drawn as before. -/
theorem drawSprite_rotate (f : Framebuffer) (x y dx dy : UInt8) (sprite : List UInt8) :
    (f.rotate (wrap dx.toNat dy.toNat)).drawSprite (x + dx) (y + dy) sprite =
      rotateState (wrap dx.toNat dy.toNat) (f.drawSprite x y sprite) := by
  have htargets : targets (x + dx).toNat (y + dy).toNat sprite =
      (targets x.toNat y.toNat sprite).map (· + wrap dx.toNat dy.toNat) := by
    rw [targets_eq_map, wrap_toNat_add, targets_eq_map x.toNat, map_add_map]
  rw [drawSprite, htargets]
  exact foldl_strike_rotateState _ _ (f, false)

/-! ### Cutting a sprite in two -/

/-- A flag that is set stays set, and does not matter to the picture. -/
theorem foldl_strike_flag (ps : List Pixel) (f : Framebuffer) (hit : Bool) :
    ps.foldl strike (f, hit) =
      ((ps.foldl strike (f, false)).1, hit || (ps.foldl strike (f, false)).2) := by
  induction ps generalizing f hit with
  | nil => simp
  | cons p ps ih =>
    rw [List.foldl_cons, List.foldl_cons, strike, strike, ih, ih _ (false || _)]
    simp only [Bool.false_or, Bool.or_assoc]

/-- The pixels under two sprites, one right below the other. -/
theorem targets_append (x y : Nat) (upper lower : List UInt8) :
    targets x y (upper ++ lower) = targets x y upper ++ targets x (y + upper.length) lower := by
  rw [targets, List.zipIdx_append, List.flatMap_append]
  rfl

/-- The lower rows of a sprite are drawn after the upper ones, and each may switch a pixel off. -/
theorem drawSprite_append (f : Framebuffer) (x y : UInt8) (upper lower : List UInt8) :
    f.drawSprite x y (upper ++ lower) =
      let first := f.drawSprite x y upper
      let second := first.1.drawSprite x (UInt8.ofNat (y.toNat + upper.length)) lower
      (second.1, first.2 || second.2) := by
  have hbelow : targets x.toNat (y.toNat + upper.length) lower =
      targets x.toNat (UInt8.ofNat (y.toNat + upper.length)).toNat lower := by
    apply targets_congr
    rw [UInt8.toNat_ofNat', ← wrap_mod, Nat.mod_eq_of_lt x.toNat_lt]
  rw [drawSprite, targets_append, List.foldl_append, hbelow]
  exact foldl_strike_flag _ _ _

/-- Nothing in drawing depends on where the edges of the picture are. A sprite that is moved along
with the picture makes the moved picture and sets the same flag, and one that is cut in two makes
the same picture and sets a flag if one of its parts does. -/
theorem drawSprite_seamless (f : Framebuffer) (x y dx dy : UInt8) (s t : List UInt8) :
    (f.rotate (wrap dx.toNat dy.toNat)).drawSprite (x + dx) (y + dy) s =
        ((f.drawSprite x y s).1.rotate (wrap dx.toNat dy.toNat), (f.drawSprite x y s).2) ∧
      f.drawSprite x y (s ++ t) =
        let first := f.drawSprite x y s
        let second := first.1.drawSprite x (UInt8.ofNat (y.toNat + s.length)) t
        (second.1, first.2 || second.2) :=
  ⟨drawSprite_rotate f x y dx dy s, drawSprite_append f x y s t⟩

end Chip8.Framebuffer
