import Chip8.Device

/-!
# Devices for rehearsals

Devices without hardware, for running a host with nobody watching: an input that follows a
script, a display that counts, and a buzzer that only remembers. Display and buzzer can be set
to fail.
-/

namespace Chip8

/-- The same keys at every scan. -/
structure SteadyInput where
  keypad : Keypad

instance : Input SteadyInput where
  scan s := ⟨.ok (some s.keypad), s, #[]⟩

/-- An input that plays a list of answers, one a scan, and then asks to quit. -/
structure ScriptedInput where
  answers : List (Except String (Option Keypad))

instance : Input ScriptedInput where
  scan s :=
    match s.answers with
    | [] => ⟨.ok none, s, #[]⟩
    | answer :: rest => ⟨answer, ⟨rest⟩, #[]⟩

/-- A display that counts the pictures it is given. One of them can be set to fail, after it has
been counted. -/
structure CountingDisplay where
  drawn : Nat
  failsAt : Option Nat

instance : Display CountingDisplay where
  draw d _ :=
    let drawn := d.drawn + 1
    (if d.failsAt = some drawn then .error "display failed" else .ok (), { d with drawn })

/-- A silent buzzer that counts how often it was switched. Starting and stopping can each be set
to fail, and then change nothing. -/
structure SilentBuzzer where
  beeping : Bool
  edges : Nat
  beepFails : Bool
  stopFails : Bool

instance : Buzzer SilentBuzzer where
  beep b :=
    if b.beepFails then (.error "beep failed", b)
    else (.ok (), { b with beeping := true, edges := b.edges + 1 })
  stop b :=
    if b.stopFails then (.error "stop failed", b)
    else (.ok (), { b with beeping := false, edges := b.edges + 1 })
  isBeeping b := b.beeping

/-- A silent buzzer that never fails, as new. -/
def SilentBuzzer.quiet : SilentBuzzer := ⟨false, 0, false, false⟩

end Chip8
