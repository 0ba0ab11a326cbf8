import Chip8.Host
import Chip8.Proofs.Mnemonics

/-!
# Messages read back

The message of a fault is cut into its words, and its numbers are found again among them. So a
message tells which fault it is about, also where it is passed on by a loader or a host, and it is
never taken for that of a reader that failed.
-/

namespace Chip8

namespace Instruction

/-- The words of a line, each read by itself. -/
def readWords (line : String) : List Operand := (words line).map Operand.read

/-- A line of one word. -/
theorem readWords_of_spells {text : String} {operand : Operand} (h : Spells text operand) :
    readWords text = [operand] := by
  rw [readWords, words_of_isWord h.isWord, List.map_singleton, h.read]

/-- Two lines with a blank between them. -/
theorem readWords_blank (s t : String) :
    readWords (s ++ " " ++ t) = readWords s ++ readWords t := by
  rw [readWords, words_separated " " rfl, List.map_append]
  rfl

end Instruction

namespace Fault

open Instruction

/-- The fault that a sentence is about, if it is one about faults. -/
def ofWords? : List Operand → Option Fault
  | [.named "memory", .named "access", .named "out", .named "of", .named "bounds", .named "at",
      .number addr] => some (.outOfBounds addr)
  | [.named "call", .named "stack", .named "overflow"] => some .stackOverflow
  | [.named "return", .named "with", .named "an", .named "empty", .named "call",
      .named "stack"] => some .stackUnderflow
  | [.named "unknown", .named "opcode", .number word] => some (.unknownOpcode (UInt16.ofNat word))
  | [.named "program", .named "is", .number size, .named "bytes", .named "at", .named "most",
      .number capacity, .named "bytes", .named "fit"] => some (.programTooLarge size capacity)
  | [.named "no", .named "such", .named "key", .number key] => some (.invalidKey key)
  | _ => none

/-- Read a message. -/
def ofMessage? (line : String) : Option Fault := ofWords? (readWords line)

/-- A sentence that ends with a marked number. -/
theorem readWords_marked (s : String) (width n : Nat) :
    readWords (s ++ " " ++ Numeral.hexMarked width n) = readWords s ++ [.number n] := by
  rw [readWords_blank, readWords_of_spells (spells_hexMarked width n)]

/-- A sentence around two decimal numbers. -/
theorem readWords_decimals (s t u : String) (n k : Nat) :
    readWords (s ++ " " ++ Numeral.decimal n ++ (" " ++ t ++ " ") ++ Numeral.decimal k ++
        (" " ++ u)) =
      readWords s ++ [.number n] ++ readWords t ++ [.number k] ++ readWords u := by
  simp only [← String.append_assoc, readWords_blank, readWords_of_spells (spells_decimal _)]

/-- Every message reads back. -/
theorem ofMessage?_message (f : Fault) : ofMessage? f.message = some f := by
  cases f with
  | stackOverflow | stackUnderflow => rfl
  | outOfBounds addr =>
    have h := readWords_marked "memory access out of bounds at" 4 addr
    exact congrArg ofWords? h
  | unknownOpcode word =>
    have h := readWords_marked "unknown opcode" 4 word.toNat
    refine (congrArg ofWords? h).trans ?_
    exact congrArg (some ∘ unknownOpcode) UInt16.ofNat_toNat
  | programTooLarge size capacity =>
    have h := readWords_decimals "program is" "bytes, at most" "bytes fit" size capacity
    exact congrArg ofWords? h
  | invalidKey key =>
    have h := readWords_marked "no such key" 1 key
    exact congrArg ofWords? h

/-- A message with two numbers, and a comma that is not read. -/
example : ofMessage? "program is 4000 bytes, at most 3584 bytes fit" =
    some (.programTooLarge 4000 3584) := rfl

/-- What is said of a reader that failed is not about a fault, whatever its own text. -/
theorem ofMessage?_io (text : String) : ofMessage? (LoadError.io text).message = none := by
  have h := readWords_blank "i/o" ("error: " ++ text)
  rw [← String.append_assoc] at h
  -- No sentence about a fault has the first word.
  exact congrArg ofWords? h

/-- No two faults have the same message. -/
theorem message_injective : Function.Injective message := by
  intro f g h
  apply Option.some.inj
  rw [← ofMessage?_message f, ← ofMessage?_message g, h]

/-- A message tells its fault, whatever the numbers in it. A loader and a host pass it on as it is,
and no reader that failed has the message of a fault. -/
theorem message_tells_fault :
    (∀ f g : Fault, f.message = g.message ↔ f = g) ∧
      (∀ f : Fault, (LoadError.fault f).message = f.message ∧
        (HostError.fault f).message = f.message) ∧
      ∀ (text : String) (f : Fault), (LoadError.io text).message ≠ f.message := by
  refine ⟨fun f g ↦ message_injective.eq_iff, fun f ↦ ⟨rfl, rfl⟩, ?_⟩
  intro text f h
  have hio := ofMessage?_io text
  rw [h, ofMessage?_message] at hio
  cases hio

end Fault
end Chip8
