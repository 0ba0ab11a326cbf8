import Mathlib.Data.List.Nodup
import Mathlib.Data.Rat.Floor
import Chip8.Terminal.Screen

/-!
# The picture on the terminal

The lit pixels are listed row by row, each as a point of a plane. A canvas that scales its bounds to
64 by 32 cells paints the cell in the place of each of these points and no other, since the bounds
of a picture are as far apart as its outermost pixels.
-/

namespace Chip8

namespace Framebuffer

/-! ### The list of lit pixels -/

/-- A pixel lies in a higher row, or in the same row and further to the left. -/
def Before (p q : Pixel) : Prop := p.2 < q.2 ∨ p.2 = q.2 ∧ p.1 < q.1

/-- The list of lit pixels holds the lit pixels and no others. -/
theorem mem_litPixels {f : Framebuffer} {p : Pixel} : p ∈ f.litPixels ↔ f.lit p = true := by
  constructor
  · intro hp
    obtain ⟨y, -, hrow⟩ := List.mem_flatMap.mp hp
    obtain ⟨x, hx, rfl⟩ := List.mem_map.mp hrow
    exact (List.mem_filter.mp hx).2
  · intro hp
    refine List.mem_flatMap.mpr ⟨p.2, List.mem_finRange _, ?_⟩
    exact List.mem_map.mpr ⟨p.1, List.mem_filter.mpr ⟨List.mem_finRange _, hp⟩, rfl⟩

/-- The list of lit pixels goes from the top to the bottom and from left to right. -/
theorem pairwise_litPixels (f : Framebuffer) : f.litPixels.Pairwise Before := by
  refine List.pairwise_flatMap.mpr ⟨?_, ?_⟩
  · intro y _
    apply List.pairwise_map.mpr
    apply (List.pairwise_lt_finRange 64).filter _ |>.imp
    intro x x' hx
    exact .inr ⟨rfl, hx⟩
  · apply (List.pairwise_lt_finRange 32).imp
    intro y y' hy p hp q hq
    obtain ⟨x, -, rfl⟩ := List.mem_map.mp hp
    obtain ⟨x', -, rfl⟩ := List.mem_map.mp hq
    exact .inl hy

/-- The list of lit pixels names no pixel twice. -/
theorem nodup_litPixels (f : Framebuffer) : f.litPixels.Nodup := by
  apply (pairwise_litPixels f).imp
  rintro p _ hp rfl
  rcases hp with hy | ⟨-, hx⟩
  · exact Nat.lt_irrefl _ hy
  · exact Nat.lt_irrefl _ hx

/-- A place shows light if and only if it is the place of a lit pixel. -/
theorem pixel_eq_true_iff {f : Framebuffer} {x y : Nat} :
    f.pixel x y = true ↔ ∃ p ∈ f.litPixels, p.1.val = x ∧ p.2.val = y := by
  rw [pixel]
  split
  · next h =>
    constructor
    · intro hlit
      exact ⟨_, mem_litPixels.mpr hlit, rfl, rfl⟩
    · rintro ⟨p, hp, rfl, rfl⟩
      exact mem_litPixels.mp hp
  · next h =>
    constructor
    · rintro ⟨⟩
    · rintro ⟨p, -, rfl, rfl⟩
      exact absurd ⟨p.1.isLt, p.2.isLt⟩ h

/-- The place of a pixel shows light if and only if the pixel is lit. -/
theorem pixel_eq_lit (f : Framebuffer) (p : Pixel) : f.pixel p.1 p.2 = f.lit p :=
  dif_pos ⟨p.1.isLt, p.2.isLt⟩

end Framebuffer

namespace Terminal.Canvas

variable {xs ys : Bounds} {ps : List Point} {q : Point} {c : Pixel}

/-! ### Points and cells -/

/-- A point falls into a cell if and only if it is within the bounds and its column and row are
those of the cell. -/
theorem cellOf?_eq_some_iff :
    cellOf? xs ys q = some c ↔ InBounds xs ys q ∧ column xs q = c.1 ∧ row ys q = c.2 := by
  have hnonneg : InBounds xs ys q → 0 ≤ column xs q ∧ 0 ≤ row ys q := by
    rintro ⟨hxl, hxr, hyb, hyt⟩
    exact ⟨Int.ediv_nonneg (by omega) (by omega), Int.ediv_nonneg (by omega) (by omega)⟩
  rw [cellOf?]
  split
  · next hin =>
    obtain ⟨hcol, hrow⟩ := hnonneg hin
    split
    · rw [Option.some_inj, Prod.ext_iff, Fin.ext_iff, Fin.ext_iff]
      simp only [hin, true_and]
      omega
    · next hout =>
      have hx := c.1.isLt
      have hy := c.2.isLt
      simp only [hin, true_and, reduceCtorEq, false_iff]
      omega
  · next hin => simp only [hin, false_and, reduceCtorEq]

private theorem foldl_paint (cs : List Pixel) (cells : Vector Bool 2048) :
    (cs.foldl (fun cells p => cells.setIfInBounds (Framebuffer.cell p) true) cells).get
      (Framebuffer.cell c) = true ↔ cells.get (Framebuffer.cell c) = true ∨ c ∈ cs := by
  induction cs generalizing cells with
  | nil => simp
  | cons p cs ih =>
    rw [List.foldl_cons, ih, List.mem_cons, ← or_assoc]
    apply or_congr_left
    have hset : (cells.setIfInBounds (Framebuffer.cell p) true).get (Framebuffer.cell c) =
        if (Framebuffer.cell p).val = (Framebuffer.cell c).val then true
        else cells.get (Framebuffer.cell c) :=
      Vector.getElem_setIfInBounds (Framebuffer.cell c).isLt
    rw [hset]
    by_cases h : c = p
    · simp [h]
    · have hcell : (Framebuffer.cell p).val ≠ (Framebuffer.cell c).val := by
        rw [Ne, Fin.val_inj, Framebuffer.cell_inj]
        exact Ne.symm h
      rw [if_neg hcell]
      simp [h]

/-- A cell is painted if and only if a point falls into it. -/
theorem get_paint :
    (paint xs ys ps).get (Framebuffer.cell c) = true ↔ ∃ q ∈ ps, cellOf? xs ys q = some c := by
  have hdark : (Vector.replicate 2048 false).get (Framebuffer.cell c) = false :=
    Vector.getElem_replicate (Framebuffer.cell c).isLt
  rw [paint, foldl_paint, List.mem_filterMap, hdark]
  simp only [Bool.false_eq_true, false_or]

/-! ### Canvases -/

/-- A canvas: it tells the painted cells, given the bounds and some points. -/
abbrev Painter := Bounds → Bounds → List Point → Pixel → Bool

/-- A cell is painted if a point within the bounds falls into it: the way of the point from the left
or the upper bound is scaled to the last column or row, and rounded down. -/
def Scales (canvas : Painter) : Prop :=
  ∀ xs ys ps c, xs.1 < xs.2 → ys.1 < ys.2 → (canvas xs ys ps c = true ↔
    ∃ q ∈ ps, InBounds xs ys q ∧
      ⌊((q.1 - xs.1) * 63 / (xs.2 - xs.1) : ℚ)⌋ = c.1 ∧
      ⌊((ys.2 - q.2) * 31 / (ys.2 - ys.1) : ℚ)⌋ = c.2)

private theorem floor_div {a b : Int} (hb : 0 ≤ b) : ⌊(a / b : ℚ)⌋ = a / b := by
  lift b to Nat using hb
  exact Rat.floor_intCast_div_natCast a b

/-- The column of a point is the exact quotient rounded down. -/
theorem floor_column (h : xs.1 < xs.2) :
    ⌊((q.1 - xs.1) * 63 / (xs.2 - xs.1) : ℚ)⌋ = column xs q := by
  rw [column, ← floor_div (by omega)]
  push_cast
  rfl

/-- The row of a point is the exact quotient rounded down. -/
theorem floor_row (h : ys.1 < ys.2) :
    ⌊((ys.2 - q.2) * 31 / (ys.2 - ys.1) : ℚ)⌋ = row ys q := by
  rw [row, ← floor_div (by omega)]
  push_cast
  rfl

/-- The canvas that paints the text on the terminal. -/
def painter : Painter := fun xs ys ps c ↦ (paint xs ys ps).get (Framebuffer.cell c)

/-- The canvas that paints the text on the terminal paints exactly the cells of scaled points. -/
theorem scales_painter : Scales painter := by
  intro xs ys ps c hx hy
  simp only [painter, get_paint, cellOf?_eq_some_iff, floor_column hx, floor_row hy]

/-! ### The points of a picture -/

/-- The point of a pixel. -/
def pointOf (p : Pixel) : Point := (p.1.val, -p.2.val)

/-- The point of a pixel is within the bounds. -/
theorem inBounds_pointOf (p : Pixel) : InBounds xBounds yBounds (pointOf p) := by
  have hx := p.1.isLt
  have hy := p.2.isLt
  simp only [InBounds, xBounds, yBounds, pointOf, Framebuffer.width, Framebuffer.height]
  omega

/-- The point of a pixel has the column of the pixel. -/
theorem column_pointOf (p : Pixel) : column xBounds (pointOf p) = p.1.val := by
  change ((p.1.val : Int) - 0) * 63 / 63 = p.1.val
  omega

/-- The point of a pixel has the row of the pixel, since the axis points up. -/
theorem row_pointOf (p : Pixel) : row yBounds (pointOf p) = p.2.val := by
  change (0 - -(p.2.val : Int)) * 31 / 31 = p.2.val
  omega

/-- The points of a picture are those of its lit pixels. -/
theorem mem_points {f : Framebuffer} {q : Point} :
    q ∈ points f ↔ ∃ p, f.lit p = true ∧ pointOf p = q := by
  simp only [points, List.mem_map, Framebuffer.mem_litPixels]
  rfl

/-- Pixels with the same point are the same. -/
theorem pointOf_inj {p p' : Pixel} : pointOf p = pointOf p' ↔ p = p' := by
  constructor
  · intro h
    have hx := column_pointOf p
    have hy := row_pointOf p
    rw [h, column_pointOf] at hx
    rw [h, row_pointOf] at hy
    apply Prod.ext
    · apply Fin.ext
      omega
    · apply Fin.ext
      omega
  · exact congrArg pointOf

/-- A canvas paints the cell of a pixel if and only if the pixel is lit. -/
theorem Scales.painted_iff {canvas : Painter} (h : Scales canvas) (f : Framebuffer) (p : Pixel) :
    canvas xBounds yBounds (points f) p = true ↔ f.lit p = true := by
  have hx : xBounds.1 < xBounds.2 := by decide
  have hy : yBounds.1 < yBounds.2 := by decide
  rw [h _ _ _ _ hx hy]
  constructor
  · rintro ⟨q, hq, -, hcol, hrow⟩
    obtain ⟨p', hlit, rfl⟩ := mem_points.mp hq
    rw [floor_column hx, column_pointOf] at hcol
    rw [floor_row hy, row_pointOf] at hrow
    have hp : p' = p := Prod.ext (Fin.ext (Int.ofNat.inj hcol)) (Fin.ext (Int.ofNat.inj hrow))
    exact hp ▸ hlit
  · intro hlit
    refine ⟨pointOf p, mem_points.mpr ⟨p, hlit, rfl⟩, inBounds_pointOf p, ?_, ?_⟩
    · rw [floor_column hx, column_pointOf]
    · rw [floor_row hy, row_pointOf]

/-! ### All of it -/

/-- What is to be seen is the picture. Its lit pixels are listed each once and from the top left on,
each of them has one point, all points are within the bounds, and a canvas paints those cells that
are in the places of lit pixels. -/
theorem picture_shown {canvas : Painter} (h : Scales canvas) (f : Framebuffer) :
    (∀ x y : Nat, (∃ p ∈ f.litPixels, p.1.val = x ∧ p.2.val = y) ↔ f.pixel x y = true) ∧
      f.litPixels.Nodup ∧ f.litPixels.Pairwise Framebuffer.Before ∧
      (points f).Nodup ∧
      (∀ q, q ∈ points f ↔ ∃ x y : Nat, f.pixel x y = true ∧ q = ((x : Int), -(y : Int))) ∧
      (∀ q ∈ points f, InBounds xBounds yBounds q) ∧
      ∀ p : Pixel, canvas xBounds yBounds (points f) p = true ↔ f.pixel p.1 p.2 = true := by
  refine ⟨fun x y ↦ Framebuffer.pixel_eq_true_iff.symm, Framebuffer.nodup_litPixels f,
    Framebuffer.pairwise_litPixels f, ?_, ?_, ?_, ?_⟩
  · exact List.Nodup.map (fun _ _ hp ↦ pointOf_inj.mp hp) (Framebuffer.nodup_litPixels f)
  · intro q
    simp only [mem_points, Framebuffer.pixel_eq_true_iff, Framebuffer.mem_litPixels]
    constructor
    · rintro ⟨p, hlit, rfl⟩
      exact ⟨p.1, p.2, ⟨p, hlit, rfl, rfl⟩, rfl⟩
    · rintro ⟨_, _, ⟨p, hlit, rfl, rfl⟩, rfl⟩
      exact ⟨p, hlit, rfl⟩
  · intro q hq
    obtain ⟨p, -, rfl⟩ := mem_points.mp hq
    exact inBounds_pointOf p
  · intro p
    rw [h.painted_iff, Framebuffer.pixel_eq_lit]

/-- A picture with one pixel in the first column and one in the bottom right corner. -/
def twoDots : Framebuffer :=
  ((Framebuffer.blank.drawSprite 63 31 [0x80]).1.drawSprite 0 1 [0x80]).1

/-- Both dots have their points and are painted, and nothing is next to the corner. -/
theorem picture_shown_twoDots :
    Scales painter ∧
      (0, -1) ∈ points twoDots ∧ (63, -31) ∈ points twoDots ∧
      painter xBounds yBounds (points twoDots) (0, 1) = true ∧
      painter xBounds yBounds (points twoDots) (63, 31) = true ∧
      painter xBounds yBounds (points twoDots) (62, 31) ≠ true := by
  have hleft : twoDots.pixel 0 1 = true := by decide +kernel
  have hcorner : twoDots.pixel 63 31 = true := by decide +kernel
  have hdark : twoDots.pixel 62 31 ≠ true := by decide +kernel
  obtain ⟨-, -, -, -, hpoints, -, hpainted⟩ := picture_shown scales_painter twoDots
  refine ⟨scales_painter, ?_, ?_, ?_, ?_, ?_⟩
  · exact (hpoints _).mpr ⟨0, 1, hleft, rfl⟩
  · exact (hpoints _).mpr ⟨63, 31, hcorner, rfl⟩
  · exact (hpainted (0, 1)).mpr hleft
  · exact (hpainted (63, 31)).mpr hcorner
  · exact fun h ↦ hdark ((hpainted (62, 31)).mp h)

/-! ### The text on the terminal -/

/-- What comes behind a first entry and before a last one. -/
private theorem getElem?_framed {α : Type} {n : Nat} (first last : α) (g : Fin n → α) (i : Fin n) :
    (first :: (List.finRange n).map g ++ [last])[i.val + 1]? = some (g i) := by
  have hlength : i.val < ((List.finRange n).map g).length := by
    rw [List.length_map, List.length_finRange]
    exact i.isLt
  rw [List.cons_append, List.getElem?_cons_succ, List.getElem?_append_left hlength,
    List.getElem?_map, List.getElem?_eq_getElem (by simp), List.getElem_finRange]
  rfl

/-- In the text on the terminal, which has a frame around the cells, a half block stands in the
place of each lit pixel and a blank in that of each dark one. -/
theorem rowsOf_cell (f : Framebuffer) (p : Pixel) :
    (rowsOf f)[p.2.val + 1]?.bind (fun line ↦ line.toList[p.1.val + 1]?) =
      some (cellText (f.pixel p.1 p.2)) := by
  have hcell : painter xBounds yBounds (points f) p = f.pixel p.1 p.2 := by
    rw [Framebuffer.pixel_eq_lit, Bool.eq_iff_iff]
    exact scales_painter.painted_iff f p
  rw [rowsOf, getElem?_framed, Option.bind_some, rowText, String.toList_ofList, getElem?_framed]
  exact congrArg (some ∘ cellText) hcell

end Terminal.Canvas
end Chip8
