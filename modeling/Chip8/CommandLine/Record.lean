import Chip8.Host
import Chip8.Machine.Command

/-!
# Errors as records

An error is reported as a record: the name of its kind and its fields.
-/

namespace Chip8

/-- A record with named fields. -/
def recordText (name : String) (fields : List (String × String)) : String :=
  let texts := fields.map fun (field, value) => field ++ ": " ++ value
  name ++ " \x7b " ++ String.intercalate ", " texts ++ " \x7d"

/-- A fault as a record. -/
def Fault.record : Fault → String
  | .outOfBounds addr => recordText "OutOfBounds" [("addr", Numeral.decimal addr)]
  | .stackOverflow => "StackOverflow"
  | .stackUnderflow => "StackUnderflow"
  | .unknownOpcode word => "UnknownOpcode(" ++ Numeral.decimal word.toNat ++ ")"
  | .programTooLarge size capacity =>
    recordText "ProgramTooLarge"
      [("size", Numeral.decimal size), ("max", Numeral.decimal capacity)]
  | .invalidKey key => "InvalidKey(" ++ Numeral.decimal key ++ ")"

/-- A failure to read a program, with the fault or the operating system's error in it. -/
def LoadError.record : LoadError → String
  | .fault f => "Fault(" ++ f.record ++ ")"
  | .io text => "Io(" ++ text ++ ")"

/-- A host's error as a record. -/
def HostError.record : HostError → String
  | .fault f => f.record
  | .io text | .buzzer text => text

namespace CommandLine

/-- An error that the operating system reports: its number and the words for it. -/
structure SystemError where
  code : Nat
  message : String

namespace SystemError

/-- The kind of errors that a number stands for. -/
def kind (e : SystemError) : String :=
  match e.code with
  | 1 | 13 => "PermissionDenied"
  | 2 => "NotFound"
  | 4 => "Interrupted"
  | 5 => "InputOutputError"
  | 11 => "WouldBlock"
  | 12 => "OutOfMemory"
  | 16 => "ResourceBusy"
  | 20 => "NotADirectory"
  | 21 => "IsADirectory"
  | 22 => "InvalidInput"
  | 26 => "ExecutableFileBusy"
  | 27 => "FileTooLarge"
  | 29 => "NotSeekable"
  | 36 => "InvalidFilename"
  | 38 | 95 => "Unsupported"
  | 40 => "FilesystemLoop"
  | 110 => "TimedOut"
  | 116 => "StaleNetworkFileHandle"
  | _ => "Uncategorized"

/-- An error of the operating system as a record. -/
def record (e : SystemError) : String :=
  recordText "Os"
    [("code", Numeral.decimal e.code), ("kind", e.kind), ("message", "\"" ++ e.message ++ "\"")]

/-- The file or device cannot be read. -/
def unreadable : SystemError := ⟨5, "Input/output error"⟩

end SystemError
end CommandLine
end Chip8
