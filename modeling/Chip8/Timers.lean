/-!
# Timers

The delay and sound timers count down to zero and stay there. The buzzer sounds while the
sound timer is not zero.
-/

namespace Chip8

/-- How often the timers tick, in hertz, whatever the speed of the instructions. -/
def timerHz : UInt32 := 60

/-- The delay and sound timers. -/
structure Timers where
  delay : UInt8
  sound : UInt8
  deriving DecidableEq

namespace Timers

/-- Both timers at rest. -/
def zero : Timers := ⟨0, 0⟩

/-- One less, but never below zero. -/
def countDown (t : UInt8) : UInt8 := if t = 0 then 0 else t - 1

/-- Count both timers down once. -/
def tick (t : Timers) : Timers := ⟨countDown t.delay, countDown t.sound⟩

/-- Whether the buzzer should sound. -/
def soundActive (t : Timers) : Bool := 0 < t.sound

/-- Counting down is subtraction that stops at zero. -/
theorem toNat_countDown (t : UInt8) : (countDown t).toNat = t.toNat - 1 := by
  unfold countDown
  split
  · next h => simp [h]
  · next h =>
    have h0 : t.toNat ≠ 0 := fun h' => h (UInt8.toNat_inj.mp h')
    have h1 : 1 ≤ t := by
      rw [UInt8.le_iff_toNat_le]
      simp
      omega
    rw [UInt8.toNat_sub_of_le _ _ h1]
    rfl

end Timers
end Chip8
