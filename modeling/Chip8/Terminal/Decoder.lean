import Chip8.Numeral
import Chip8.Terminal.KeyEvent

/-!
# Decoding what a terminal sends

Most characters are one key each. An escape character begins a sequence, unless it is the last
byte of what has arrived: then it is the key Escape. A sequence is a key without a character, a
movement of the mouse, a report of where the cursor is, or none that is known; what is known to
be wrong is passed over, and a sequence that has not ended is kept until more arrives.
-/

namespace Chip8.Terminal

/-- How far a sequence of bytes has come. -/
inductive Progress where
  /-- Between sequences. -/
  | outside
  /-- In a character of several bytes, so many before its end. -/
  | partway (bytes : List UInt8) (missing : Nat)
  /-- Behind an escape character. -/
  | escaped
  /-- Behind an escape character and `O`. -/
  | keypad
  /-- Behind an escape character and a bracket. -/
  | bracketed
  /-- Behind an escape character and two brackets. -/
  | doubled
  /-- In a movement of the mouse that is told in three bytes. -/
  | movement (bytes : List UInt8)
  /-- In a movement of the mouse that is told in numbers up to the letter `M`, in either case. Its
  text so far is kept backwards. -/
  | pointer (text : List Char)
  /-- In a sequence of numbers. Its text so far is kept backwards. -/
  | numbered (text : List Char)
  deriving DecidableEq

/-- What a terminal tells: a key, a movement of the mouse, or where the cursor is, which nobody
asked for. -/
inductive Signal where
  | key (event : KeyEvent)
  | mouse
  | report
  deriving DecidableEq

namespace Signal

/-- The key Escape. -/
def escape : Signal := .key ⟨.escape, false⟩

/-- A key without a character. -/
def named : Signal := .key ⟨.named, false⟩

end Signal

/-- Whether text is a number below a limit. -/
def isBelow (limit : Nat) (text : List Char) : Bool := (Numeral.natural? text).any (· < limit)

/-- Whether a number stands for a key in a sequence that ends with a tilde: a key of the editing
block, or a function key. -/
def isKeyNumber (n : Nat) : Bool :=
  1 ≤ n ∧ n ≤ 8 ∨ 11 ≤ n ∧ n ≤ 34 ∧ n ∉ [16, 22, 27, 30]

/-- Whether a byte stands for something the mouse can do. Its two lowest and its two highest bits
tell the button: one of three, none, or a direction of the wheel. -/
def isMouseAction (n : Nat) : Bool := n % 4 + n / 64 * 4 ≤ 5

/-- Whether the numbers of a movement are those of an action, above an offset, and of a place. -/
def isMovement (offset : Nat) (text : List Char) : Bool :=
  match text.splitOn ';' with
  | action :: column :: row :: _ =>
    (Numeral.natural? action).any (fun n => offset ≤ n && n < 256 && isMouseAction (n - offset)) &&
      isBelow 0x10000 column && isBelow 0x10000 row
  | _ => false

/-- The characters that end the numbers of an arrow, Home, End or one of the first function
keys. The numbers tell the keys that were held with it and may be any. -/
def arrowEnds : List Char := ['A', 'B', 'C', 'D', 'F', 'H', 'P', 'Q', 'S']

/-- What a sequence of numbers tells, by its text and the character that ends it. -/
def numberedSignal (text : List Char) (last : Char) : List Signal :=
  match last, text.splitOn ';' with
  | 'M', _ => if isMovement 32 text then [.mouse] else []
  | '~', first :: _ => if (Numeral.natural? first).any isKeyNumber then [.named] else []
  | 'R', row :: column :: _ =>
    if isBelow 0x10000 row && isBelow 0x10000 column then [.report] else []
  | _, _ => if last ∈ arrowEnds then [.named] else []

/-- How many bytes follow the first one of a character. -/
def bytesBehind? (b : UInt8) : Option Nat :=
  if b < 0x80 then some 0
  else if b < 0xC0 then none
  else if b < 0xE0 then some 1
  else if b < 0xF0 then some 2
  else if b < 0xF8 then some 3
  else none

/-- The key of a character in bytes, if they are one. -/
def characterSignal (bytes : List UInt8) : List Signal :=
  match String.fromUTF8? ⟨bytes.toArray⟩ with
  | some text => text.toList.map fun c => .key (.ofTyped c)
  | none => []

namespace Progress

/-- What the first byte of a character does. -/
def begin (b : UInt8) : Progress × List Signal :=
  match bytesBehind? b with
  | none => (.outside, [])
  | some 0 => (.outside, [.key (.ofTyped (Char.ofNat b.toNat))])
  | some missing => (.partway [b] missing, [])

/-- What a byte behind an escape character and a bracket does. -/
def bracket (c : Char) : Progress × List Signal :=
  if c = '[' then (.doubled, [])
  else if c = 'M' then (.movement [], [])
  else if c = '<' then (.pointer [], [])
  else if c.isDigit then (.numbered [c], [])
  else (.outside, if c ∈ ['A', 'B', 'C', 'D', 'F', 'H', 'Z'] then [.named] else [])

/-- The next byte: how far the sequence has come with it, and what it tells. -/
def feed (p : Progress) (b : UInt8) : Progress × List Signal :=
  let c := Char.ofNat b.toNat
  match p with
  | .outside => if c = '\x1b' then (.escaped, []) else begin b
  | .partway bytes missing =>
    if b.toNat / 64 ≠ 2 then (.outside, [])
    else if missing ≤ 1 then (.outside, characterSignal (bytes ++ [b]))
    else (.partway (bytes ++ [b]) (missing - 1), [])
  | .escaped =>
    if c = 'O' then (.keypad, [])
    else if c = '[' then (.bracketed, [])
    else if c = '\x1b' then (.outside, [.escape])
    else begin b
  | .keypad => (.outside, if 'P' ≤ c ∧ c ≤ 'S' then [.named] else [])
  | .bracketed => bracket c
  | .doubled => (.outside, if 'A' ≤ c ∧ c ≤ 'E' then [.named] else [])
  | .movement bytes =>
    match bytes with
    | [action, _] =>
      (.outside, if 32 ≤ action ∧ isMouseAction (action.toNat - 32) then [.mouse] else [])
    | _ => (.movement (bytes ++ [b]), [])
  | .pointer text =>
    if c = 'M' ∨ c = 'm' then (.outside, if isMovement 0 text.reverse then [.mouse] else [])
    else (.pointer (c :: text), [])
  | .numbered text =>
    if '@' ≤ c ∧ c ≤ '~' then (.outside, numberedSignal text.reverse c)
    else (.numbered (c :: text), [])

/-- Bytes one after the other. -/
def run : Progress → List UInt8 → Progress × List Signal
  | p, [] => (p, [])
  | p, b :: rest =>
    let (q, signals) := p.feed b
    let (r, more) := q.run rest
    (r, signals ++ more)

/-- An escape character behind which nothing has arrived is the key Escape. -/
def flush (p : Progress) : Progress × List Signal :=
  match p with
  | .escaped => (.outside, [.escape])
  | _ => (p, [])

/-- What arrived bytes tell, if nothing stands behind them. -/
def decode (p : Progress) (bytes : List UInt8) : Progress × List Signal :=
  let (q, signals) := p.run bytes
  let (r, last) := q.flush
  (r, signals ++ last)

end Progress
end Chip8.Terminal
