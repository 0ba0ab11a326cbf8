import Chip8.Machine.Cycle

/-!
# Commands

What a host can ask of a machine, as data, and what becomes of a machine that is asked for one
thing after the other.
-/

namespace Chip8

/-- What reading a program gives: all bytes up to the end, or up to a failure. -/
structure Reading where
  bytes : List UInt8
  failure : Option String

/-- A request to a machine. -/
inductive Command where
  | load (program : List UInt8)
  | loadFrom (reading : Reading)
  | cycle
  | resume
  | tick
  | setKey (key : Nat) (down : Bool)
  | setKeys (keypad : Keypad)

/-- An outcome with its error seen as one of loading. -/
def Outcome.asLoad {α σ : Type} (o : Outcome Fault α σ) : Outcome LoadError α σ :=
  ⟨o.result.mapError .fault, o.state, o.log⟩

namespace Machine

variable {ρ : Type}

/-- Load the bytes of a reading; if it failed, nothing changes. -/
def loadFrom (m : Machine ρ) (reading : Reading) : Outcome LoadError Unit (Machine ρ) :=
  match reading.failure with
  | some text => ⟨.error (.io text), m, #[]⟩
  | none => (m.load reading.bytes).asLoad

/-- Do what a command asks. -/
def obey [RandomSource ρ] (m : Machine ρ) :
    Command → Except Misuse (Outcome LoadError Unit (Machine ρ))
  | .load program => .ok (m.load program).asLoad
  | .loadFrom reading => .ok (m.loadFrom reading)
  | .cycle =>
    match m.cycle with
    | .error u => .error u
    | .ok o => .ok o.asLoad
  | .resume => .ok m.resume.asLoad
  | .tick => .ok ⟨.ok (), m.tick, #[]⟩
  | .setKey key down =>
    match m.setKey key down with
    | .error f => .ok ⟨.error (.fault f), m, #[]⟩
    | .ok m => .ok ⟨.ok (), m, #[]⟩
  | .setKeys keypad => .ok ⟨.ok (), m.setKeys keypad, #[]⟩

end Machine

/-- What a list of commands gave, one result a command, with the state after the last of them and
the events in all. -/
structure History (σ : Type) where
  results : List (Except LoadError Unit)
  state : σ
  log : Log

/-- Do what commands ask, one after the other, whatever their results. -/
def Machine.history {ρ : Type} [RandomSource ρ] (m : Machine ρ) :
    List Command → Except Misuse (History (Machine ρ))
  | [] => .ok ⟨[], m, #[]⟩
  | c :: commands =>
    match m.obey c with
    | .error u => .error u
    | .ok o =>
      match o.state.history commands with
      | .error u => .error u
      | .ok h => .ok ⟨o.result :: h.results, h.state, o.log ++ h.log⟩

end Chip8
