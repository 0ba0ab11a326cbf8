import Chip8.Numeral

/-!
# Options of the command line

One path of a program, and options before or after it. An option's value follows it as the next
argument or after an equals sign; a following argument that starts with a dash is not taken as a
value. After the argument `--` everything is a path. Nothing may be given twice.
-/

namespace Chip8.CommandLine

/-- What a command line asks for. A run of zero frames stands for one without a limit. -/
structure Options where
  rom : String
  hz : UInt32
  seed : Option UInt64
  shiftVy : Bool
  ignoreSys : Bool
  mute : Bool
  frames : UInt64

/-- Why a command line asks for no run. -/
inductive Refusal where
  /-- The help text is asked for. -/
  | help
  /-- The arguments are malformed. -/
  | usage
  deriving DecidableEq

/-- The options that take a value. -/
inductive Setting where
  | hz
  | seed
  | frames
  deriving DecidableEq

/-- The options that take no value. -/
inductive Switch where
  | shiftVy
  | ignoreSys
  | mute
  deriving DecidableEq

/-- What has been read of a command line so far. -/
structure Draft where
  rom : Option String
  hz : Option UInt32
  seed : Option UInt64
  frames : Option UInt64
  shiftVy : Bool
  ignoreSys : Bool
  mute : Bool

/-- Nothing has been read. -/
def Draft.empty : Draft := ⟨none, none, none, none, false, false, false⟩

/-- A number with an optional sign. A number below zero is none that an option takes, so only
zero may have a minus sign. -/
def signed? (text : List Char) : Option Nat :=
  match text with
  | '-' :: rest =>
    match rest with
    | '+' :: _ => none
    | _ => (Numeral.natural? rest).filter (· = 0)
  | _ => Numeral.natural? text

/-- A value of 32 bits. -/
def word32? (text : String) : Option UInt32 :=
  (signed? text.toList).bind fun n => if n < 0x100000000 then some (UInt32.ofNat n) else none

/-- A value of 64 bits. -/
def word64? (text : String) : Option UInt64 :=
  (Numeral.natural? text.toList).bind fun n =>
    if n < 0x10000000000000000 then some (UInt64.ofNat n) else none

/-- Set a value that has not been set yet. -/
def setOnce {α : Type} (old new : Option α) : Except Refusal (Option α) :=
  match old, new with
  | none, some a => .ok (some a)
  | none, none | some _, _ => .error .usage

namespace Draft

/-- Read the value of an option. -/
def set (d : Draft) (setting : Setting) (value : String) : Except Refusal Draft :=
  match setting with
  | .hz => (setOnce d.hz (word32? value)).map fun hz => { d with hz }
  | .seed => (setOnce d.seed (word64? value)).map fun seed => { d with seed }
  | .frames => (setOnce d.frames (word64? value)).map fun frames => { d with frames }

/-- Read an option without a value. -/
def turnOn (d : Draft) (switch : Switch) : Except Refusal Draft :=
  match switch with
  | .shiftVy => if d.shiftVy then .error .usage else .ok { d with shiftVy := true }
  | .ignoreSys => if d.ignoreSys then .error .usage else .ok { d with ignoreSys := true }
  | .mute => if d.mute then .error .usage else .ok { d with mute := true }

/-- Read the path, which must not be empty. -/
def setRom (d : Draft) (path : String) : Except Refusal Draft :=
  match d.rom with
  | some _ => .error .usage
  | none => if path = "" then .error .usage else .ok { d with rom := some path }

/-- The options of a draft, once everything is read. -/
def finish (d : Draft) : Except Refusal Options :=
  match d.rom with
  | none => .error .usage
  | some rom =>
    .ok {
      rom
      hz := d.hz.getD 700
      seed := d.seed
      shiftVy := d.shiftVy
      ignoreSys := d.ignoreSys
      mute := d.mute
      frames := d.frames.getD 0 }

end Draft

/-- The option with a value of that name. -/
def settingOf? (name : String) : Option Setting :=
  match name with
  | "hz" => some .hz
  | "seed" => some .seed
  | "frames" => some .frames
  | _ => none

/-- The option without a value of that name. -/
def switchOf? (name : String) : Option Switch :=
  match name with
  | "shift-vy" => some .shiftVy
  | "ignore-sys" => some .ignoreSys
  | "mute" => some .mute
  | _ => none

/-- The form of an argument. -/
inductive Argument where
  /-- The argument `--`. -/
  | separator
  /-- Two dashes and a name. -/
  | long (name : String)
  /-- Two dashes, a name, an equals sign and a value. -/
  | longWith (name value : String)
  /-- One dash and at least one letter, the first of which is given. -/
  | short (letter : Char)
  /-- Anything else. -/
  | plain (text : String)

/-- The form that an argument has. -/
def Argument.ofString (text : String) : Argument :=
  match text.toList with
  | ['-', '-'] => .separator
  | '-' :: '-' :: rest =>
    match rest.dropWhile (· ≠ '=') with
    | '=' :: value =>
      .longWith (String.ofList (rest.takeWhile (· ≠ '='))) (String.ofList value)
    | _ => .long (String.ofList rest)
  | '-' :: letter :: _ => .short letter
  | _ => .plain text

/-- Read the paths after the separator. -/
def readPaths : List String → Draft → Except Refusal Draft
  | [], d => .ok d
  | path :: rest, d =>
    match d.setRom path with
    | .error e => .error e
    | .ok d => readPaths rest d

/-- Read arguments from left to right; the first one that is wrong or asks for help decides.
`pending` is the option that waits for its value. -/
def readArguments : List String → Option Setting → Draft → Except Refusal Draft
  | [], none, d => .ok d
  | [], some _, _ => .error .usage
  | text :: rest, some setting, d =>
    match Argument.ofString text with
    | .plain value =>
      match d.set setting value with
      | .error e => .error e
      | .ok d => readArguments rest none d
    | .separator | .long _ | .longWith _ _ | .short _ => .error .usage
  | text :: rest, none, d =>
    match Argument.ofString text with
    | .separator => readPaths rest d
    | .plain path =>
      match d.setRom path with
      | .error e => .error e
      | .ok d => readArguments rest none d
    | .short letter => .error (if letter = 'h' then .help else .usage)
    | .longWith name value =>
      match settingOf? name with
      | none => .error .usage
      | some setting =>
        match d.set setting value with
        | .error e => .error e
        | .ok d => readArguments rest none d
    | .long name =>
      if name = "help" then .error .help
      else
        match switchOf? name, settingOf? name with
        | some switch, _ =>
          match d.turnOn switch with
          | .error e => .error e
          | .ok d => readArguments rest none d
        | none, some setting => readArguments rest (some setting) d
        | none, none => .error .usage

/-- The options of a command line. -/
def Options.parse (arguments : List String) : Except Refusal Options :=
  match readArguments arguments none .empty with
  | .error e => .error e
  | .ok d => d.finish

/-- The text that explains the command line of a program with that name. -/
def helpText (program : String) : List String :=
  ["Run a CHIP-8 program in the terminal. Esc or Ctrl-C quits.",
   "",
   "Usage: " ++ program ++ " [OPTIONS] <ROM>",
   "",
   "Arguments:",
   "  <ROM>  program image to load at 0x200",
   "",
   "Options:",
   "      --hz <HZ>          instructions per second [default: 700]",
   "      --seed <SEED>      seed for CXNN, for repeatable runs",
   "      --shift-vy         shift Vy into Vx for 8XY6 / 8XYE, like the COSMAC VIP",
   "      --ignore-sys       treat 0NNN machine code calls as no-ops",
   "      --mute             keep the PC speaker quiet",
   "      --frames <FRAMES>  stop after this many frames (0 = run until Esc) [default: 0]",
   "  -h, --help             Print help"]

end Chip8.CommandLine
