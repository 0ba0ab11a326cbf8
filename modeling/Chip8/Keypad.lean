import Chip8.Fault

/-!
# Key pad

The state of the sixteen keys. Hosts write it between cycles; instructions only read it.
-/

namespace Chip8

/-- Which of the keys `0` to `F` are down. -/
structure Keypad where
  keys : Vector Bool 16
  deriving DecidableEq

namespace Keypad

/-- No key is down. -/
def released : Keypad := ⟨Vector.replicate 16 false⟩

/-- Press or release one key. -/
def set (k : Keypad) (key : Nat) (down : Bool) : Except Fault Keypad :=
  if h : key < 16 then .ok ⟨k.keys.set key down⟩ else .error (.invalidKey key)

/-- Whether the key for the low nibble of `key` is down. -/
def isDown (k : Keypad) (key : UInt8) : Bool := k.keys[key.toNat % 16]

/-- The lowest key that is down. -/
def firstDown (k : Keypad) : Option (Fin 16) := (List.finRange 16).find? fun i => k.keys[i]

/-- The pad with exactly the keys for the low nibbles of `held` down. -/
def holding (held : List UInt8) : Keypad :=
  ⟨Vector.ofFn fun i => held.any fun b => b.toNat % 16 == i.val⟩

end Keypad
end Chip8
