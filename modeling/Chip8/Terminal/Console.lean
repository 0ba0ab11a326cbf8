import Chip8.Terminal.Decoder
import Chip8.Terminal.Keyboard

/-!
# The keyboard at the end of a line

What is typed waits on the line until a scan reads it. A scan reads once, and only if something
has been typed since the line was last read; one reading takes a limited number of bytes, and the
rest waits until something more is typed. The events that a scan leaves unread come before what
the next scan reads. A report of where the cursor is ends a scan, as if nothing stood behind it.
-/

namespace Chip8.Terminal

/-- The most bytes that one reading takes from the line. -/
def readingLimit : Nat := 1204

/-- A keyboard whose unread events reach to the next report, the events between the reports that
follow, the state of the decoder, the bytes on the line, and whether some of them are new. -/
structure Console where
  keyboard : Keyboard
  later : List (List Arrival)
  progress : Progress
  line : List UInt8
  fresh : Bool

/-- The events of signals: those before the first report, and those behind each report. -/
def batches : List Signal → List Arrival × List (List Arrival)
  | [] => ([], [])
  | .key e :: rest => (.key e :: (batches rest).1, (batches rest).2)
  | .mouse :: rest => (.other :: (batches rest).1, (batches rest).2)
  | .report :: rest => ([], (batches rest).1 :: (batches rest).2)

/-- Take what one reading takes from a line. One that is full may have more behind it, so its last
byte can begin a sequence. -/
def takeReading (p : Progress) (line : List UInt8) : Progress × List Signal :=
  if line.length < readingLimit then p.decode line else p.run (line.take readingLimit)

/-- Read from a line until it tells something or is empty: the state of the decoder, what was
told, and the rest of the line. -/
def readUntilTold (p : Progress) (line : List UInt8) : Progress × List Signal × List UInt8 :=
  let (q, signals) := takeReading p line
  let rest := line.drop readingLimit
  if signals = [] ∧ rest ≠ [] then readUntilTold q rest else (q, signals, rest)
termination_by line.length
decreasing_by
  rename_i h
  have : rest.length ≠ 0 := fun h0 => h.2 (List.length_eq_zero_iff.mp h0)
  simp only [rest, List.length_drop, readingLimit] at this ⊢
  omega

namespace Console

/-- Nothing has been typed. -/
def idle : Console := ⟨.idle, [], .outside, [], false⟩

/-- Bytes arrive on the line. -/
def type (c : Console) (bytes : List UInt8) : Console :=
  { c with line := c.line ++ bytes, fresh := c.fresh || !bytes.isEmpty }

/-- Whether a scan ends before it looks at the line. -/
def isBlocked (c : Console) : Bool :=
  !c.later.isEmpty || c.keyboard.unread.any fun arrival =>
    match arrival with
    | .ok (.key e) => e.isQuit
    | .ok .other => false
    | .error _ => true

/-- Read the line. -/
def readLine (c : Console) : Console :=
  let (progress, signals, line) := readUntilTold c.progress c.line
  let (events, later) := batches signals
  ⟨c.keyboard.receive (events.map .ok), later, progress, line, false⟩

/-- A scan behind which the next batch of events can be read, if this one is. -/
def scanBatch (c : Console) : Scan Console :=
  let s := c.keyboard.scan
  match s.answer, c.later with
  | .ok (some _), batch :: later =>
    ⟨s.answer, { c with keyboard := s.input.receive (batch.map .ok), later }, s.log⟩
  | _, _ => ⟨s.answer, { c with keyboard := s.input }, s.log⟩

/-- One scan: read the line if it has something new, unless what was read before ends the scan;
then the events. -/
def scan (c : Console) : Scan Console :=
  if c.fresh && !c.isBlocked then c.readLine.scanBatch else c.scanBatch

instance : Input Console := ⟨scan⟩

end Console
end Chip8.Terminal
