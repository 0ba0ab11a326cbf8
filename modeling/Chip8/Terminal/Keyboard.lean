import Chip8.Device
import Chip8.Terminal.KeyEvent

/-!
# The keyboard as a key pad

The left side of a keyboard stands for the pad. A terminal reports presses but no releases, so a
press holds its key down for six scans, the scan that reads it included.
-/

namespace Chip8.Terminal

/-- Which characters stand for the keys of the pad. The pad's rows `123C`, `456D`, `789E` and
`A0BF` are typed `1234`, `qwer`, `asdf` and `zxcv`. -/
def keymap : List (Char × Fin 16) :=
  ['x', '1', '2', '3', 'q', 'w', 'e', 'a', 's', 'd', 'z', 'c', '4', 'r', 'f', 'v'].zip
    (List.finRange 16)

/-- For how many scans a press holds its key down. -/
def keyHoldScans : Nat := 6

/-- The key of the pad that a character stands for, in either case. -/
def keyOf? (c : Char) : Option (Fin 16) := keymap.lookup c.toLower

/-- What arrives from a terminal: a key, or something that is no key, such as a movement of the
mouse. -/
inductive Arrival where
  | key (event : KeyEvent)
  | other
  deriving DecidableEq

/-- A keyboard: for how many scans each key of the pad is still held, and what has arrived from
the terminal and is not read yet, failures of reading among it. -/
structure Keyboard where
  held : Vector Nat 16
  unread : List (Except String Arrival)

namespace Keyboard

/-- Nothing is held and nothing has arrived. -/
def idle : Keyboard := ⟨Vector.replicate 16 0, []⟩

/-- Something arrives, or fails to, behind what is not read yet. -/
def receive (k : Keyboard) (arrivals : List (Except String Arrival)) : Keyboard :=
  { k with unread := k.unread ++ arrivals }

/-- One scan has passed for every held key. -/
def decay (held : Vector Nat 16) : Vector Nat 16 := held.map (· - 1)

/-- The pad with the held keys down. -/
def keypad (held : Vector Nat 16) : Keypad := ⟨held.map (0 < ·)⟩

/-- The effect of an event that does not quit: a character that stands for a key holds it, and
anything else is noted. -/
def press (held : Vector Nat 16) (e : KeyEvent) : Vector Nat 16 × Log :=
  match e.code with
  | .char c =>
    match keyOf? c with
    | some key => (held.setIfInBounds key keyHoldScans, #[])
    | none => (held, #[.unmapped c])
  | .escape | .named => (held, #[.notCharacter])

/-- Read what has arrived, up to an event that quits or a failure of reading. -/
def read : List (Except String Arrival) → Vector Nat 16 → Log → Scan Keyboard
  | [], held, log => ⟨.ok (some (keypad held)), ⟨held, []⟩, log⟩
  | .error text :: rest, held, log => ⟨.error text, ⟨held, rest⟩, log⟩
  | .ok .other :: rest, held, log => read rest held log
  | .ok (.key e) :: rest, held, log =>
    if e.isQuit then ⟨.ok none, ⟨held, rest⟩, log⟩
    else
      let (held, noted) := press held e
      read rest held (log ++ noted)

/-- One scan: let time pass for the held keys, then read. -/
def scan (k : Keyboard) : Scan Keyboard := read k.unread (decay k.held) #[]

instance : Input Keyboard := ⟨scan⟩

end Keyboard
end Chip8.Terminal
