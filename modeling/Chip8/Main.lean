import Chip8.CommandLine.Session

/-!
# The program

Runs a program in the terminal, in frames of a sixtieth of a second. Keys are read from standard
input once a frame; the terminal should be set to pass them on as they are typed and not to wait
for them (`stty raw -echo min 0 time 0`).
-/

namespace Chip8.CommandLine

/-- A 64-bit number from eight bytes. -/
def wordOfBytes (bytes : ByteArray) : UInt64 :=
  bytes.foldl (fun word b => word <<< 8 ||| b.toUInt64) 0

/-- The number and the words of a failure that the operating system reports. -/
def systemError : IO.Error → SystemError
  | .alreadyExists _ code details | .otherError code details | .resourceBusy code details
  | .resourceVanished code details | .unsupportedOperation code details
  | .hardwareFault code details | .unsatisfiedConstraints code details
  | .illegalOperation code details | .protocolError code details | .timeExpired code details
  | .interrupted _ code details | .noFileOrDirectory _ code details
  | .invalidArgument _ code details | .permissionDenied _ code details
  | .resourceExhausted _ code details | .inappropriateType _ code details
  | .noSuchThing _ code details => ⟨code.toNat, details⟩
  | .unexpectedEof | .userError _ => .unreadable

/-- Read the program's file. A file that cannot be opened is told from one that cannot be read. -/
def readRom (path : String) : IO (Except SystemError Reading) := do
  match ← (IO.FS.Handle.mk path .read).toBaseIO with
  | .error e => return .error (systemError e)
  | .ok file =>
    match ← file.readBinToEnd.toBaseIO with
    | .error e => return .ok ⟨[], some (systemError e).record⟩
    | .ok bytes => return .ok ⟨bytes.toList, none⟩

/-- What has been typed since the last look. -/
def arrivals : IO (List UInt8) := do
  let bytes ← (← IO.getStdin).read 1024
  return bytes.toList

/-- Send text to the terminal at once. -/
def send (text : String) : IO Unit := do
  let out ← IO.getStdout
  out.putStr text
  out.flush

/-- Put the rows of a screen on the terminal. -/
def sendScreen (screen : Terminal.Screen) : IO Unit :=
  send ("\x1b[H" ++ String.intercalate "\r\n" screen.rows)

/-- Play frames at their pace until the limit is reached or one ends the run. -/
partial def playFrames (o : Options) (host : TerminalHost) (played : Nat) :
    IO (Sequence TerminalHost) := do
  if o.limit = some played then return ⟨.limit, played, host, #[]⟩
  let start ← IO.monoMsNow
  let bytes ← arrivals
  match ({ host with input := host.input.type bytes } : TerminalHost).frames 1 played #[] with
  | .error _ => throw (IO.userError "misuse of the machine")
  | .ok sequence =>
    sendScreen sequence.host.display
    unless o.mute do
      if sequence.host.buzzer.beeping && !host.buzzer.beeping then send "\x07"
    match sequence.ending with
    | .limit =>
      let spent := (← IO.monoMsNow) - start
      IO.sleep (UInt32.ofNat (16 - min 16 spent))
      playFrames o sequence.host sequence.played
    | .quit | .failed _ => return sequence

/-- Run a session on the terminal. -/
def playSession (o : Options) : IO Report := do
  let entropy ← IO.getRandomBytes 8
  match machineFor o (wordOfBytes entropy) (← readRom o.rom) with
  | .error text => return ⟨1, errorLine text, ⟨[], true⟩⟩
  | .ok machine =>
    send "\x1b[2J\x1b[?25l"
    let sequence ← playFrames o (hostFor o machine []) 0
    send "\x1b[?25h\r\n"
    return reportOf (Host.finish sequence)

end Chip8.CommandLine

/-- Run the program that the arguments name. -/
def main (arguments : List String) : IO UInt32 := do
  match Chip8.CommandLine.Options.parse arguments with
  | .error .help =>
    (Chip8.CommandLine.helpText "chip8").forM (IO.println ·)
    return 0
  | .error .usage =>
    IO.eprintln "usage: chip8 [OPTIONS] <ROM>; see chip8 --help"
    return 2
  | .ok o =>
    let report ← Chip8.CommandLine.playSession o
    IO.eprint report.error
    return report.code
