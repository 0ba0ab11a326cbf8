import Chip8.CommandLine.Options
import Chip8.CommandLine.Record
import Chip8.Device.Rehearsal
import Chip8.Host.Run
import Chip8.Machine.Command
import Chip8.Random.ChaCha
import Chip8.Terminal.Console
import Chip8.Terminal.Screen

/-!
# Sessions

A session is what one command line does: read a program, run it on a terminal, and report.
-/

namespace Chip8.CommandLine

/-- How a session ended: the exit code, the text of the error if there was one, and what is to
be seen on the terminal. -/
structure Report where
  code : UInt32
  error : String
  screen : Terminal.Screen

namespace Options

/-- The dialect that the options ask for. -/
def dialect (o : Options) : Dialect :=
  ⟨if o.shiftVy then .vy else .vx, if o.ignoreSys then .ignore else .fault⟩

/-- The source of random bytes: the given seed's, or else one from `entropy`. -/
def source (o : Options) (entropy : UInt64) : ChaCha := .ofSeed (o.seed.getD entropy)

/-- The limit to the number of frames, if there is one. -/
def limit (o : Options) : Option Nat := if o.frames = 0 then none else some o.frames.toNat

end Options

/-- The host of a session: a machine, the terminal taken over, and a buzzer. -/
abbrev TerminalHost := Host ChaCha Terminal.Console Terminal.Screen SilentBuzzer

/-- A host for a loaded machine, with bytes already on its line. -/
def hostFor (o : Options) (machine : Machine ChaCha) (typed : List UInt8) :
    TerminalHost :=
  ⟨machine, Terminal.Console.idle.type typed, .opened, .quiet, cyclesPerFrame o.hz⟩

/-- The machine of a session with its program loaded, or the text of the error. -/
def machineFor (o : Options) (entropy : UInt64) (rom : Except SystemError Reading) :
    Except String (Machine ChaCha) :=
  match rom with
  | .error e => .error e.record
  | .ok reading =>
    let outcome := (Machine.powerOn (o.source entropy) o.dialect).loadFrom reading
    match outcome.result with
    | .error e => .error e.record
    | .ok () => .ok outcome.state

/-- The line that reports an error. -/
def errorLine (text : String) : String := "Error: " ++ text ++ "\n"

/-- The report of a run that has ended. -/
def reportOf (run : Run TerminalHost) : Report :=
  let screen := run.host.display.close
  match run.result with
  | .ok () => ⟨0, "", screen⟩
  | .error e => ⟨1, errorLine e.record, screen⟩

/-- A session with its options read. `rom` is what opening and reading the program's file gives, and
`typed` what stands on the line. There is no report of a session that runs on past `fuel` frames. -/
def session (o : Options) (entropy : UInt64) (rom : Except SystemError Reading)
    (typed : List UInt8) (fuel : Nat) : Except Misuse (Option Report) :=
  match machineFor o entropy rom with
  | .error text => .ok (some ⟨1, errorLine text, ⟨[], true⟩⟩)
  | .ok machine =>
    match (hostFor o machine typed).run o.limit fuel with
    | .error u => .error u
    | .ok none => .ok none
    | .ok (some run) => .ok (some (reportOf run))

end Chip8.CommandLine
