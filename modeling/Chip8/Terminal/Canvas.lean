import Chip8.Framebuffer

/-!
# Canvas

A picture is drawn in a terminal by way of a canvas: a plane with bounds whose vertical axis
points up. A lit pixel in column `x` and row `y` is the point `(x, -y)`. The canvas maps its
bounds to 64 by 32 cells, and a cell is painted if a point falls into it.
-/

namespace Chip8.Terminal.Canvas

/-- A point of the plane. -/
abbrev Point := Int × Int

/-- The least and the greatest value of a coordinate. -/
abbrev Bounds := Int × Int

/-- The bounds of a picture to the left and to the right. -/
def xBounds : Bounds := (0, Framebuffer.width - 1)

/-- The bounds of a picture at the bottom and at the top. -/
def yBounds : Bounds := (-(Framebuffer.height - 1), 0)

/-- The points of a picture. -/
def points (f : Framebuffer) : List Point :=
  f.litPixels.map fun p => ((p.1.val : Int), -(p.2.val : Int))

/-- A point lies within the bounds. -/
def InBounds (xs ys : Bounds) (p : Point) : Prop :=
  xs.1 ≤ p.1 ∧ p.1 ≤ xs.2 ∧ ys.1 ≤ p.2 ∧ p.2 ≤ ys.2

instance (xs ys : Bounds) (p : Point) : Decidable (InBounds xs ys p) :=
  inferInstanceAs (Decidable (_ ∧ _))

/-- The column of cells that a point falls into: its share of the width, scaled to the last
column and rounded down. -/
def column (xs : Bounds) (p : Point) : Int := (p.1 - xs.1) * 63 / (xs.2 - xs.1)

/-- The row of cells that a point falls into, counted from the top. -/
def row (ys : Bounds) (p : Point) : Int := (ys.2 - p.2) * 31 / (ys.2 - ys.1)

/-- The cell that a point falls into; one out of bounds falls into none. -/
def cellOf? (xs ys : Bounds) (p : Point) : Option Pixel :=
  if InBounds xs ys p then
    if h : (column xs p).toNat < 64 ∧ (row ys p).toNat < 32 then
      some (⟨(column xs p).toNat, h.1⟩, ⟨(row ys p).toNat, h.2⟩)
    else none
  else none

/-- The painted cells, row by row. -/
def paint (xs ys : Bounds) (ps : List Point) : Vector Bool 2048 :=
  (ps.filterMap (cellOf? xs ys)).foldl
    (fun cells p => cells.setIfInBounds (Framebuffer.cell p) true) (Vector.replicate 2048 false)

end Chip8.Terminal.Canvas
