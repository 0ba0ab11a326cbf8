/-!
# Framebuffer

The picture: 64 by 32 pixels, each lit or dark. A sprite is drawn by flipping the pixels under
its set bits, one pixel after the other. The picture has no edge: what leaves it on the right
or at the bottom comes back on the other side.
-/

namespace Chip8

/-- A pixel's column and row. -/
abbrev Pixel := Fin 64 × Fin 32

/-- The picture, row by row. -/
structure Framebuffer where
  cells : Vector Bool 2048
  deriving DecidableEq

namespace Framebuffer

/-- Pixels in a row. -/
def width : Nat := 64

/-- Rows of pixels. -/
def height : Nat := 32

/-- The cell of a pixel. -/
def cell (p : Pixel) : Fin 2048 := ⟨64 * p.2.val + p.1.val, by omega⟩

/-- The dark picture. -/
def blank : Framebuffer := ⟨Vector.replicate 2048 false⟩

/-- Whether a pixel is lit. -/
def lit (f : Framebuffer) (p : Pixel) : Bool := f.cells[cell p]

/-- Whether the pixel in column `x` and row `y` is lit; there is only darkness off the picture. -/
def pixel (f : Framebuffer) (x y : Nat) : Bool :=
  if h : x < 64 ∧ y < 32 then f.lit (⟨x, h.1⟩, ⟨y, h.2⟩) else false

/-- The lit pixels, row by row and from left to right. -/
def litPixels (f : Framebuffer) : List Pixel :=
  (List.finRange 32).flatMap fun y =>
    ((List.finRange 64).filter fun x => f.lit (x, y)).map fun x => (x, y)

/-- Switch one pixel over. -/
def flip (f : Framebuffer) (p : Pixel) : Framebuffer :=
  ⟨f.cells.set (cell p) (!f.lit p)⟩

/-- The pixel at a column and a row counted past the edges. -/
def wrap (x y : Nat) : Pixel :=
  (⟨x % 64, Nat.mod_lt _ (by decide)⟩, ⟨y % 32, Nat.mod_lt _ (by decide)⟩)

/-- The pixels under the set bits of a byte whose leftmost bit lies at column `x`, row `y`. -/
def rowTargets (x y : Nat) (bits : UInt8) : List Pixel :=
  ((List.range 8).filter fun c => bits.toNat.testBit (7 - c)).map fun c => wrap (x + c) y

/-- The pixels under the set bits of a sprite, a byte to a row, in the order they are drawn. A
tall sprite may name a pixel more than once. -/
def targets (x y : Nat) (sprite : List UInt8) : List Pixel :=
  (sprite.zipIdx y).flatMap fun (bits, row) => rowTargets x row bits

/-- Flip one pixel, noting whether that switched it off. -/
def strike (state : Framebuffer × Bool) (p : Pixel) : Framebuffer × Bool :=
  let hit := state.2 || state.1.lit p
  (state.1.flip p, hit)

/-- Draw a sprite with its top left corner at column `x`, row `y`; the flag says whether a pixel
was switched off. -/
def drawSprite (f : Framebuffer) (x y : UInt8) (sprite : List UInt8) : Framebuffer × Bool :=
  (targets x.toNat y.toNat sprite).foldl strike (f, false)

/-- Different pixels have different cells. -/
theorem cell_inj {p q : Pixel} : cell p = cell q ↔ p = q := by
  constructor
  · intro h
    have h := congrArg Fin.val h
    simp only [cell] at h
    apply Prod.ext <;> apply Fin.ext <;> omega
  · exact congrArg cell

/-- Pictures are equal when the same pixels are lit. -/
theorem ext_lit {f g : Framebuffer} (h : ∀ p, f.lit p = g.lit p) : f = g := by
  cases f
  cases g
  congr 1
  apply Vector.ext
  intro i hi
  have hp := h (⟨i % 64, by omega⟩, ⟨i / 64, by omega⟩)
  have hc : cell (⟨i % 64, by omega⟩, ⟨i / 64, by omega⟩) = ⟨i, hi⟩ := by
    apply Fin.ext
    simp only [cell]
    omega
  simpa [lit, hc] using hp

/-- A flip switches its pixel over and leaves the others alone. -/
theorem lit_flip (f : Framebuffer) (p q : Pixel) :
    (f.flip p).lit q = if p = q then !f.lit q else f.lit q := by
  simp only [lit, flip, Fin.getElem_fin, Vector.getElem_set, Fin.val_inj, cell_inj]
  split
  · next h => rw [h]
  · rfl

end Framebuffer
end Chip8
