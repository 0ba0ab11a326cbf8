import Chip8.Device
import Chip8.Terminal.Canvas

/-!
# The terminal's screen

The text that ends up on the terminal: a frame with a title around the 64 by 32 cells of the
canvas, a half block in each painted cell and a blank in any other.
-/

namespace Chip8.Terminal

/-- The title in the frame's upper edge. -/
def title : List Char := ['C', 'H', 'I', 'P', '-', '8']

/-- The text of a cell. -/
def cellText (painted : Bool) : Char := if painted then '▄' else ' '

/-- The upper edge of the frame. -/
def upperEdge : String :=
  String.ofList ('┌' :: title ++ List.replicate (64 - title.length) '─' ++ ['┐'])

/-- The lower edge of the frame. -/
def lowerEdge : String := String.ofList ('└' :: List.replicate 64 '─' ++ ['┘'])

/-- A row of cells between the sides of the frame. -/
def rowText (cells : Vector Bool 2048) (y : Fin 32) : String :=
  String.ofList
    ('│' :: (List.finRange 64).map (fun x => cellText cells[Framebuffer.cell (x, y)]) ++ ['│'])

/-- The rows of text that show a picture, top row first. -/
def rowsOf (f : Framebuffer) : List String :=
  let cells := Canvas.paint Canvas.xBounds Canvas.yBounds (Canvas.points f)
  upperEdge :: (List.finRange 32).map (rowText cells) ++ [lowerEdge]

/-- What is to be seen on a terminal: rows of text, and perhaps the cursor. -/
structure Screen where
  rows : List String
  cursor : Bool

namespace Screen

/-- Take a terminal over: it is cleared and its cursor hidden. -/
def opened : Screen := ⟨[], false⟩

/-- Show a picture. -/
def draw (s : Screen) (f : Framebuffer) : Screen := { s with rows := rowsOf f }

/-- Give the terminal back: the cursor appears, the text stays. -/
def close (s : Screen) : Screen := { s with cursor := true }

instance : Display Screen := ⟨fun s f => (.ok (), s.draw f)⟩

end Screen
end Chip8.Terminal
