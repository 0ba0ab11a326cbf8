import Chip8.Event
import Chip8.Framebuffer
import Chip8.Keypad

/-!
# Devices

What a host needs around a machine: a display, an input and a buzzer. A device is a state, and
using it yields the next state, also when the use failed.
-/

namespace Chip8

/-- States that show pictures. -/
class Display (δ : Type) where
  /-- Show a picture. -/
  draw : δ → Framebuffer → Except String Unit × δ

/-- What looking at an input gives: the keys as of now, or nothing if the user wants out, or a
failure. -/
structure Scan (ι : Type) where
  answer : Except String (Option Keypad)
  input : ι
  log : Log

/-- States that know the keys. -/
class Input (ι : Type) where
  /-- Look at the keys. -/
  scan : ι → Scan ι

/-- States that make a noise. -/
class Buzzer (β : Type) where
  /-- Start the noise. -/
  beep : β → Except String Unit × β
  /-- End the noise. -/
  stop : β → Except String Unit × β
  /-- Whether there is a noise. -/
  isBeeping : β → Bool

/-- Make the buzzer follow a flag. It is only used when that changes something. -/
def Buzzer.sync {β : Type} [Buzzer β] (buzzer : β) (active : Bool) : Except String Unit × β :=
  match active, isBeeping buzzer with
  | true, false => beep buzzer
  | false, true => stop buzzer
  | true, true | false, false => (.ok (), buzzer)

end Chip8
