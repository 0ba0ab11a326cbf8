import Chip8.Host

/-!
# Runs

A run is a sequence of frames, up to a limit or until the user quits or a frame fails. However
it ends, the buzzer is switched off. A reel is a number of frames whatever comes of them, and
leaves the buzzer alone.
-/

namespace Chip8

/-- Why a sequence of frames came to its end. -/
inductive Ending where
  /-- All frames that were allowed have been played. -/
  | limit
  /-- The user quit. -/
  | quit
  /-- A frame failed. -/
  | failed (error : HostError)
  deriving DecidableEq

/-- The result that an end stands for: only a failed frame is an error. -/
def Ending.result : Ending → Except HostError Unit
  | .limit | .quit => .ok ()
  | .failed e => .error e

/-- A sequence of frames: its end, the number of frames played, the host after it and the events
in it. -/
structure Sequence (η : Type) where
  ending : Ending
  played : Nat
  host : η
  log : Log

/-- Frames that were asked for one by one: their results, the host after the last and the events
in all. -/
structure Reel (η : Type) where
  results : List (Except HostError FrameEnd)
  host : η
  log : Log

/-- A finished run: its result, why its frames ended, how many were played, the host after it
and the events in it. -/
structure Run (η : Type) where
  result : Except HostError Unit
  ending : Ending
  played : Nat
  host : η
  log : Log

namespace Host

variable {ρ ι δ β : Type} [RandomSource ρ] [Input ι] [Display δ] [Buzzer β]

/-- Ask for so many frames, whatever comes of them. -/
def reel : Nat → Host ρ ι δ β → Except Misuse (Reel (Host ρ ι δ β))
  | 0, h => .ok ⟨[], h, #[]⟩
  | n + 1, h =>
    match h.frame with
    | .error u => .error u
    | .ok o =>
      match reel n o.state with
      | .error u => .error u
      | .ok r => .ok ⟨o.result :: r.results, r.host, o.log ++ r.log⟩

/-- Play up to so many frames. `played` counts frames and `log` holds events from before. -/
def frames : Nat → Host ρ ι δ β → Nat → Log → Except Misuse (Sequence (Host ρ ι δ β))
  | 0, h, played, log => .ok ⟨.limit, played, h, log⟩
  | n + 1, h, played, log =>
    match h.frame with
    | .error u => .error u
    | .ok o =>
      match o.result with
      | .error e => .ok ⟨.failed e, played, o.state, log ++ o.log⟩
      | .ok .quit => .ok ⟨.quit, played, o.state, (log ++ o.log).push (.quit played)⟩
      | .ok .played => frames n o.state (played + 1) (log ++ o.log)

/-- Switch the buzzer off after the last frame. The error of a frame outweighs one of the
buzzer. -/
def finish (s : Sequence (Host ρ ι δ β)) : Run (Host ρ ι δ β) :=
  let (quiet, buzzer) := Buzzer.sync s.host.buzzer false
  let result :=
    match s.ending.result with
    | .error e => .error e
    | .ok () => quiet.mapError .buzzer
  ⟨result, s.ending, s.played, { s.host with buzzer }, s.log⟩

/-- Run at most `limit` frames. -/
def runFor (h : Host ρ ι δ β) (limit : Nat) : Except Misuse (Run (Host ρ ι δ β)) :=
  match h.frames limit 0 #[] with
  | .error u => .error u
  | .ok s => .ok (finish s)

/-- Run until the user quits or a frame fails. There is no answer if that takes more than `fuel`
frames. -/
def runOn (h : Host ρ ι δ β) (fuel : Nat) : Except Misuse (Option (Run (Host ρ ι δ β))) :=
  match h.frames fuel 0 #[] with
  | .error u => .error u
  | .ok s =>
    match s.ending with
    | .limit => .ok none
    | .quit | .failed _ => .ok (some (finish s))

/-- Run up to a limit, or on and on if there is none, for at most `fuel` frames. -/
def run (h : Host ρ ι δ β) (limit : Option Nat) (fuel : Nat) :
    Except Misuse (Option (Run (Host ρ ι δ β))) :=
  match limit with
  | some limit => (h.runFor limit).map some
  | none => h.runOn fuel

end Host
end Chip8
