/-!
# Key events of a terminal

What a terminal in raw mode reports when keys are typed: characters, perhaps with the control
key, and keys that give no character.
-/

namespace Chip8.Terminal

/-- The key of an event. -/
inductive KeyCode where
  | char (character : Char)
  | escape
  /-- Any other key that gives no character, such as Enter, Tab or an arrow. -/
  | named
  deriving DecidableEq

/-- A key, and whether the control key was held with it. -/
structure KeyEvent where
  code : KeyCode
  control : Bool
  deriving DecidableEq

namespace KeyEvent

/-- The letter or digit that is held with the control key to type a control character. -/
def controlled (c : Char) : Char :=
  if c.toNat = 0 then ' '
  else if c.toNat < 0x1B then Char.ofNat ('a'.toNat + c.toNat - 1)
  else Char.ofNat ('4'.toNat + c.toNat - 0x1C)

/-- The event of typing a character. Enter, Tab, Escape and Backspace type control characters of
their own; any other control character is typed with the control key. -/
def ofTyped (c : Char) : KeyEvent :=
  if c = '\x1b' then ⟨.escape, false⟩
  else if c = '\r' ∨ c = '\t' ∨ c = '\x7f' then ⟨.named, false⟩
  else if c < ' ' then ⟨.char (controlled c), true⟩
  else ⟨.char c, false⟩

/-- Escape quits, and so does the letter C with the control key. -/
def isQuit (e : KeyEvent) : Bool :=
  match e.code with
  | .escape => true
  | .char c => (c == 'c' || c == 'C') && e.control
  | .named => false

end KeyEvent
end Chip8.Terminal
