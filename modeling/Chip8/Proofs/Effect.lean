import Chip8.Instruction.Encoding
import Chip8.Machine.Execute

/-!
# Effects of instructions

What an instruction leaves in each part of a machine, and the fault at which the machine refuses
it. A part is mentioned only where an instruction changes it. The work of an instruction whose
operands fit is exactly this: the fault and an untouched machine, or the whole effect.
-/

namespace Chip8

/-- The byte in register `x`, zero if there is no such register. -/
def Registers.read (r : Registers) (x : UInt8) : UInt8 := r.v[x.toNat]?.getD 0

/-- Registers with `value` in register `x`. -/
def Registers.write (r : Registers) (x value : UInt8) : Registers :=
  { r with v := r.v.setIfInBounds x.toNat value }

/-- The bytes that there are among the `length` ones from `addr` on. -/
def Memory.window {n : Nat} (m : Memory n) (addr : UInt16) (length : Nat) : List UInt8 :=
  (m.cells.toList.drop addr.toNat).take length

/-- Memory with `data` at `addr`. -/
def Memory.put {n : Nat} (m : Memory n) (addr : UInt16) (data : List UInt8) : Memory n :=
  ⟨overwrite m.cells addr.toNat data⟩

namespace Machine

variable {ρ : Type}

/-- The byte in register `x`. -/
def v (m : Machine ρ) (x : UInt8) : UInt8 := m.registers.read x

/-- The sprite of so many rows that lies at I. -/
def sprite (m : Machine ρ) (rows : UInt8) : List UInt8 :=
  m.memory.window m.registers.index rows.toNat

/-- The picture with a sprite drawn at column VX, row VY, and whether a pixel was switched off. -/
def drawn (m : Machine ρ) (x y rows : UInt8) : Framebuffer × Bool :=
  m.screen.drawSprite (m.v x) (m.v y) (m.sprite rows)

/-! ### The parts of a machine after an instruction -/

/-- Whether an instruction skips the next one. -/
def skips (m : Machine ρ) : Instruction → Bool
  | .skipEqByte x nn => m.v x == nn
  | .skipNeByte x nn => m.v x != nn
  | .skipEq x y => m.v x == m.v y
  | .skipNe x y => m.v x != m.v y
  | .skipKeyDown x => m.keypad.isDown (m.v x)
  | .skipKeyUp x => !m.keypad.isDown (m.v x)
  | _ => false

/-- The counter after an instruction. -/
def pcAfter (m : Machine ρ) : Instruction → UInt16
  | .jump addr | .call addr => addr
  | .jumpOffset addr => addr + (m.v 0).toUInt16
  | .ret =>
    match m.stack.pop with
    | .ok (addr, _) => addr
    | .error _ => m.registers.pc
  | i => if m.skips i then m.registers.pc + 2 else m.registers.pc

/-- The index register after an instruction. -/
def indexAfter (m : Machine ρ) : Instruction → UInt16
  | .loadIndex addr => addr
  | .addIndex x => m.registers.index + (m.v x).toUInt16
  | .loadGlyph x => glyphAddr (m.v x)
  | _ => m.registers.index

/-- The byte registers after an instruction; arithmetic notes its flag last. -/
def bankAfter [RandomSource ρ] (m : Machine ρ) : Instruction → Registers
  | .loadByte x nn => m.registers.write x nn
  | .addByte x nn => m.registers.write x (m.v x + nn)
  | .move x y => m.registers.write x (m.v y)
  | .or x y => m.registers.write x (m.v x ||| m.v y)
  | .and x y => m.registers.write x (m.v x &&& m.v y)
  | .xor x y => m.registers.write x (m.v x ^^^ m.v y)
  | .add x y =>
    (m.registers.write x (m.v x + m.v y)).setFlag (0xFF < (m.v x).toNat + (m.v y).toNat)
  | .sub x y => (m.registers.write x (m.v x - m.v y)).setFlag (m.v y ≤ m.v x)
  | .subFrom x y => (m.registers.write x (m.v y - m.v x)).setFlag (m.v x ≤ m.v y)
  | .shiftRight x y =>
    let source := m.v (shiftOperand m.dialect x y)
    (m.registers.write x (source >>> 1)).setFlag (source &&& 0x01 != 0)
  | .shiftLeft x y =>
    let source := m.v (shiftOperand m.dialect x y)
    (m.registers.write x (source <<< 1)).setFlag (source &&& 0x80 != 0)
  | .random x nn => m.registers.write x ((RandomSource.next m.random).1 &&& nn)
  | .draw x y n => m.registers.setFlag (m.drawn x y n).2
  | .readDelay x => m.registers.write x m.timers.delay
  | .loadRegisters x =>
    { m.registers with
      v := overwrite m.registers.v 0 (m.memory.window m.registers.index (x.toNat + 1)) }
  | _ => m.registers

/-- Memory after an instruction. -/
def memoryAfter (m : Machine ρ) : Instruction → Memory memorySize
  | .storeDecimal x => m.memory.put m.registers.index (decimalDigits (m.v x))
  | .storeRegisters x =>
    m.memory.put m.registers.index (m.registers.v.toList.take (x.toNat + 1))
  | _ => m.memory

/-- The call stack after an instruction. -/
def stackAfter (m : Machine ρ) : Instruction → CallStack
  | .call _ =>
    match m.stack.push m.registers.pc with
    | .ok stack => stack
    | .error _ => m.stack
  | .ret =>
    match m.stack.pop with
    | .ok (_, stack) => stack
    | .error _ => m.stack
  | _ => m.stack

/-- The timers after an instruction. -/
def timersAfter (m : Machine ρ) : Instruction → Timers
  | .setDelay x => { m.timers with delay := m.v x }
  | .setSound x => { m.timers with sound := m.v x }
  | _ => m.timers

/-- The picture after an instruction. -/
def screenAfter (m : Machine ρ) : Instruction → Framebuffer
  | .clear => .blank
  | .draw x y n => (m.drawn x y n).1
  | _ => m.screen

/-- The source of random bytes after an instruction. -/
def randomAfter [RandomSource ρ] (m : Machine ρ) : Instruction → ρ
  | .random .. => (RandomSource.next m.random).2
  | _ => m.random

/-- What the next cycle will do after an instruction. -/
def phaseAfter (m : Machine ρ) : Instruction → Phase
  | .waitKey x => .waiting x
  | _ => m.phase

/-- The machine that an instruction makes when nothing stands in its way. -/
def effect [RandomSource ρ] (m : Machine ρ) (i : Instruction) : Machine ρ where
  memory := m.memoryAfter i
  registers := { m.bankAfter i with index := m.indexAfter i, pc := m.pcAfter i }
  stack := m.stackAfter i
  timers := m.timersAfter i
  keypad := m.keypad
  screen := m.screenAfter i
  random := m.randomAfter i
  dialect := m.dialect
  phase := m.phaseAfter i

/-- A call notes the address after it. -/
theorem stackAfter_call (m : Machine ρ) (addr : UInt16) :
    m.stackAfter (.call addr) =
      match m.stack.push m.registers.pc with
      | .ok stack => stack
      | .error _ => m.stack := rfl

/-- A return takes the newest address off the stack. -/
theorem stackAfter_ret (m : Machine ρ) :
    m.stackAfter .ret =
      match m.stack.pop with
      | .ok (_, stack) => stack
      | .error _ => m.stack := rfl

/-- A return goes to the address that it takes off. -/
theorem pcAfter_ret (m : Machine ρ) :
    m.pcAfter .ret =
      match m.stack.pop with
      | .ok (addr, _) => addr
      | .error _ => m.registers.pc := rfl

/-! ### Refusals -/

/-- The fault of an access to `length` bytes from I on, if one of them does not exist. -/
def lack (m : Machine ρ) (length : Nat) : Option Fault :=
  if memorySize < m.registers.index.toNat + length then
    some (Memory.missing memorySize m.registers.index)
  else none

/-- The fault at which the machine refuses an instruction. -/
def refusal (m : Machine ρ) : Instruction → Option Fault
  | .sys addr =>
    match m.dialect.sysCalls with
    | .fault => some (.unknownOpcode addr)
    | .ignore => none
  | .call _ => if m.stack.depth = 16 then some .stackOverflow else none
  | .ret => if m.stack.depth = 0 then some .stackUnderflow else none
  | .draw _ _ n => m.lack n.toNat
  | .storeDecimal _ => m.lack 3
  | .storeRegisters x | .loadRegisters x => m.lack (x.toNat + 1)
  | _ => none

/-- Machine code is refused in a dialect in which it faults. -/
theorem refusal_sys (m : Machine ρ) (addr : UInt16) :
    m.refusal (.sys addr) =
      match m.dialect.sysCalls with
      | .fault => some (.unknownOpcode addr)
      | .ignore => none := rfl

/-- A call is refused for a full stack. -/
theorem refusal_call (m : Machine ρ) (addr : UInt16) :
    m.refusal (.call addr) = if m.stack.depth = 16 then some .stackOverflow else none := rfl

/-- A return is refused for an empty stack. -/
theorem refusal_ret (m : Machine ρ) :
    m.refusal .ret = if m.stack.depth = 0 then some .stackUnderflow else none := rfl

/-- A sprite is refused if not all its rows exist. -/
theorem refusal_draw (m : Machine ρ) (x y n : UInt8) :
    m.refusal (.draw x y n) = m.lack n.toNat := rfl

/-- A load is refused if not all its bytes exist. -/
theorem refusal_loadRegisters (m : Machine ρ) (x : UInt8) :
    m.refusal (.loadRegisters x) = m.lack (x.toNat + 1) := rfl

private theorem eq_missing_of_lack {m : Machine ρ} {length : Nat} {f : Fault}
    (h : m.lack length = some f) : f = Memory.missing memorySize m.registers.index := by
  unfold lack at h
  split at h
  · cases h
    rfl
  · cases h

/-- A machine refuses machine code, a call on a full stack, a return on an empty one and bytes that
do not exist. -/
theorem refusal_cases {m : Machine ρ} {i : Instruction} {f : Fault} (h : m.refusal i = some f) :
    (∃ addr, i = .sys addr ∧ m.dialect.sysCalls = .fault ∧ f = .unknownOpcode addr) ∨
    (∃ addr, i = .call addr ∧ m.stack.depth = 16 ∧ f = .stackOverflow) ∨
    (i = .ret ∧ m.stack.depth = 0 ∧ f = .stackUnderflow) ∨
    f = Memory.missing memorySize m.registers.index := by
  cases i with
  | sys addr =>
    rw [refusal_sys] at h
    split at h
    · next hs =>
      cases h
      exact .inl ⟨addr, rfl, hs, rfl⟩
    · cases h
  | call addr =>
    rw [refusal_call] at h
    split at h
    · next hd =>
      cases h
      exact .inr (.inl ⟨addr, rfl, hd, rfl⟩)
    · cases h
  | ret =>
    rw [refusal_ret] at h
    split at h
    · next hd =>
      cases h
      exact .inr (.inr (.inl ⟨rfl, hd, rfl⟩))
    · cases h
  | draw _ _ _ | storeDecimal _ | storeRegisters _ | loadRegisters _ =>
    exact .inr (.inr (.inr (eq_missing_of_lack h)))
  | _ => cases h

end Machine

/-! ### Registers, read after a write -/

namespace Registers

variable {r : Registers} {z : UInt8}

/-- A register holds what was written to it last. -/
theorem read_write_self {x value : UInt8} (h : x < 16) : (r.write x value).read x = value := by
  have hx : x.toNat < 16 := UInt8.lt_iff_toNat_lt.mp h
  rw [read, write, Vector.getElem?_setIfInBounds, if_pos rfl, if_pos hx, Option.getD_some]

/-- A write leaves the other registers alone. -/
theorem read_write_of_ne {x value : UInt8} (h : z ≠ x) : (r.write x value).read z = r.read z := by
  have hne : x.toNat ≠ z.toNat := fun he ↦ h (UInt8.toNat_inj.mp he).symm
  rw [read, write, Vector.getElem?_setIfInBounds_ne hne, read]

/-- The flag is one or zero. -/
theorem read_setFlag_self {on : Bool} : (r.setFlag on).read flag = if on then 1 else 0 := by
  change (r.v.set flag.toNat _)[flag.toNat]?.getD 0 = _
  rw [Vector.getElem?_set_self, Option.getD_some]

/-- The flag is one register. -/
theorem read_setFlag_of_ne {on : Bool} (h : z ≠ flag) : (r.setFlag on).read z = r.read z := by
  have hne : flag.toNat ≠ z.toNat := fun he ↦ h (UInt8.toNat_inj.mp he).symm
  change (r.v.set flag.toNat _)[z.toNat]?.getD 0 = r.v[z.toNat]?.getD 0
  rw [Vector.getElem?_set_ne _ hne]

/-- A write with a flag leaves all but two registers alone. -/
theorem read_setFlag_write_of_ne {x value : UInt8} {on : Bool} (hx : z ≠ x) (hf : z ≠ flag) :
    ((r.write x value).setFlag on).read z = r.read z := by
  rw [read_setFlag_of_ne hf, read_write_of_ne hx]

end Registers

/-! ### Checked accesses that succeed -/

namespace Registers

/-- Reading a register that exists. -/
theorem get_read {r : Registers} {x : UInt8} (h : x < 16) : r.get x = .ok (r.read x) := by
  have hx : x.toNat < 16 := UInt8.lt_iff_toNat_lt.mp h
  rw [get_eq hx, read, Vector.getElem?_eq_getElem hx, Option.getD_some]

/-- Writing a register that exists. -/
theorem set_write {r : Registers} {x value : UInt8} (h : x < 16) :
    r.set x value = .ok (r.write x value) := by
  have hx : x.toNat < 16 := UInt8.lt_iff_toNat_lt.mp h
  rw [set, dif_pos hx, write, set_eq_setIfInBounds]

/-- Filling registers that exist, with as many values. -/
theorem fill_eq {r : Registers} {x : UInt8} {values : List UInt8} (h : x < 16)
    (hl : values.length = x.toNat + 1) :
    r.fill x values = .ok { r with v := overwrite r.v 0 values } := by
  have hx : x.toNat < 16 := UInt8.lt_iff_toNat_lt.mp h
  rw [fill, if_pos hl, setUpTo, dif_pos hx, writeCells_eq,
    List.take_of_length_le (Nat.le_of_eq hl)]

end Registers

namespace Memory

variable {n : Nat} {m : Memory n} {addr : UInt16}

private theorem check_of_lt {length : Nat} (h : HasEnd addr length)
    (hn : n < addr.toNat + length) :
    check n addr length = .error (.fault (missing n addr)) := by
  rw [check, if_neg (Nat.not_le.mpr h), dif_pos hn]

private theorem check_of_le {length : Nat} (h : HasEnd addr length)
    (hn : addr.toNat + length ≤ n) : check n addr length = .ok ⟨hn⟩ := by
  rw [check, if_neg (Nat.not_le.mpr h), dif_neg (Nat.not_lt.mpr hn)]

/-- A slice whose end can be counted is refused only if one of its bytes does not exist. -/
theorem slice_eq {length : Nat} (h : HasEnd addr length) :
    m.slice addr length =
      if n < addr.toNat + length then .error (.fault (missing n addr))
      else .ok (m.window addr length) := by
  by_cases hn : n < addr.toNat + length
  · rw [slice, check_of_lt h hn, if_pos hn]
  · have hle : addr.toNat + length ≤ n := Nat.le_of_not_lt hn
    rw [slice, check_of_le h hle, if_neg hn]
    exact congrArg Except.ok (readCells_eq _ hle)

/-- A write whose end can be counted is refused only if one of its bytes does not exist. -/
theorem write_eq {data : List UInt8} (h : HasEnd addr data.length) :
    m.write addr data =
      if n < addr.toNat + data.length then .error (.fault (missing n addr))
      else .ok (m.put addr data) := by
  by_cases hn : n < addr.toNat + data.length
  · rw [write, check_of_lt h hn, if_pos hn]
  · have hle : addr.toNat + data.length ≤ n := Nat.le_of_not_lt hn
    rw [write, check_of_le h hle, if_neg hn]
    exact congrArg (Except.ok ∘ Memory.mk) (writeCells_eq _ hle)

/-- A window of existing bytes has its full length. -/
theorem length_window {length : Nat} (h : addr.toNat + length ≤ n) :
    (m.window addr length).length = length := by
  rw [window, List.length_take, List.length_drop, Vector.length_toList]
  omega

/-- The bytes of a window are those of memory. -/
theorem getElem?_window {length k : Nat} (h : k < length) :
    (m.window addr length)[k]? = m.cells[addr.toNat + k]? := by
  rw [window, List.getElem?_take_of_lt h, List.getElem?_drop, Vector.getElem?_toList]

/-- A list that is not too long and has the bytes of a window is the window. -/
theorem eq_window {length : Nat} {bytes : List UInt8} (hl : bytes.length ≤ length)
    (hb : ∀ k < length, bytes[k]? = m.cells[addr.toNat + k]?) : bytes = m.window addr length := by
  apply List.ext_getElem?
  intro k
  by_cases hk : k < length
  · rw [hb k hk, getElem?_window hk]
  · rw [List.getElem?_eq_none (by omega), window, List.getElem?_take, if_neg hk]

end Memory

namespace Work

variable {ρ : Type} {m : Machine ρ}

@[simp]
private theorem run_of_ok {α : Type} (a : α) : (of (.ok a) : Work ρ α).run m = .ok a m := rfl

@[simp]
private theorem run_of_error {α : Type} (e : Trap) :
    (of (.error e) : Work ρ α).run m = .error e m := rfl

private theorem run_reg {x : UInt8} (h : x < 16) : (reg x).run m = .ok (m.v x) m := by
  simp only [reg, EStateM.run_bind, EStateM.run_get, Registers.get_read h, Trap.ofMisuse,
    run_of_ok, Machine.v]

private theorem run_setReg {x value : UInt8} (h : x < 16) :
    (setReg x value).run m = .ok () { m with registers := m.registers.write x value } := by
  simp only [setReg, EStateM.run_bind, EStateM.run_get, Registers.set_write h, Trap.ofMisuse,
    run_of_ok, EStateM.run_modify]

private theorem run_setRegFlag {x value : UInt8} {flag : Bool} (h : x < 16) :
    (setRegFlag x value flag).run m =
      .ok () { m with registers := (m.registers.write x value).setFlag flag } := by
  simp only [setRegFlag, EStateM.run_bind, run_setReg h, setFlag, EStateM.run_modify]

private theorem run_bytesAtIndex {length : Nat} (h : length ≤ 256) :
    (bytesAtIndex length).run m =
      match m.lack length with
      | some f => .error (.fault f) m
      | none => .ok (m.memory.window m.registers.index length) m := by
  simp only [bytesAtIndex, EStateM.run_bind, EStateM.run_get,
    Memory.slice_eq (Memory.hasEnd_of_le m.registers.index h), Machine.lack]
  by_cases hn : memorySize < m.registers.index.toNat + length
  · simp only [if_pos hn, run_of_error]
  · simp only [if_neg hn, run_of_ok]

private theorem run_writeAtIndex {data : List UInt8} (h : data.length ≤ 256) :
    (writeAtIndex data).run m =
      match m.lack data.length with
      | some f => .error (.fault f) m
      | none => .ok () { m with memory := m.memory.put m.registers.index data } := by
  simp only [writeAtIndex, EStateM.run_bind, EStateM.run_get,
    Memory.write_eq (Memory.hasEnd_of_le m.registers.index h), Machine.lack]
  by_cases hn : memorySize < m.registers.index.toNat + data.length
  · simp only [if_pos hn, run_of_error]
  · simp only [if_neg hn, run_of_ok, EStateM.run_set]

private theorem run_skipIf {condition : Bool} :
    (skipIf condition).run m =
      .ok () (m.goto (if condition then m.registers.pc + 2 else m.registers.pc)) := by
  cases condition with
  | false => rfl
  | true => rfl

/-- A push leaves the machine alone if the stack is full. -/
theorem run_push {addr : UInt16} :
    (push addr).run m =
      match m.stack.push addr with
      | .error f => .error (.fault f) m
      | .ok stack => .ok () { m with stack } := by
  simp only [push, EStateM.run_bind, EStateM.run_get]
  cases m.stack.push addr with
  | error f => rfl
  | ok stack => rfl

/-- A pop leaves the machine alone if the stack is empty. -/
theorem run_pop :
    (pop : Work ρ UInt16).run m =
      match m.stack.pop with
      | .error f => .error (.fault f) m
      | .ok (addr, stack) => .ok addr { m with stack } := by
  simp only [pop, EStateM.run_bind, EStateM.run_get]
  cases m.stack.pop with
  | error f => rfl
  | ok popped => rfl

end Work

namespace Instruction

variable {ρ : Type} [RandomSource ρ]

open Work

private theorem run_jumpOffset (m : Machine ρ) {addr : UInt16} (h : addr < 0x1000) :
    (jumpOffset addr).carryOut.run m = .ok () (m.effect (jumpOffset addr)) := by
  have hs : addr.toNat + (m.v 0).toUInt16.toNat < 0x10000 := by
    have ha : addr.toNat < 0x1000 := UInt16.lt_iff_toNat_lt.mp h
    have hv := (m.v 0).toNat_lt
    rw [UInt8.toNat_toUInt16]
    omega
  simp only [carryOut, EStateM.run_bind, run_reg (show (0 : UInt8) < 16 by decide), offsetAddr,
    if_pos hs, run_of_ok]
  rfl

private theorem run_call (m : Machine ρ) (addr : UInt16) :
    (call addr).carryOut.run m =
      match m.refusal (call addr) with
      | some f => .error (.fault f) m
      | none => .ok () (m.effect (call addr)) := by
  simp only [carryOut, EStateM.run_bind, EStateM.run_get, run_push, Machine.refusal_call]
  cases hp : m.stack.push m.registers.pc with
  | error f =>
    obtain ⟨hd, rfl⟩ := CallStack.push_eq_error_iff.mp hp
    simp only [if_pos hd]
  | ok stack =>
    have hd : m.stack.depth ≠ 16 := by
      intro hd
      rw [CallStack.push_eq_error_iff.mpr ⟨hd, rfl⟩] at hp
      cases hp
    simp only [if_neg hd, Machine.effect, Machine.stackAfter_call, hp]
    rfl

private theorem run_ret (m : Machine ρ) :
    (ret : Instruction).carryOut.run m =
      match m.refusal ret with
      | some f => .error (.fault f) m
      | none => .ok () (m.effect ret) := by
  simp only [carryOut, EStateM.run_bind, run_pop, Machine.refusal_ret]
  cases hp : m.stack.pop with
  | error f =>
    obtain ⟨hd, rfl⟩ := CallStack.pop_eq_error_iff.mp hp
    simp only [if_pos hd]
  | ok popped =>
    have hd : m.stack.depth ≠ 0 := by
      intro hd
      rw [CallStack.pop_eq_error_iff.mpr ⟨hd, rfl⟩] at hp
      cases hp
    simp only [if_neg hd, Machine.effect, Machine.stackAfter_ret, Machine.pcAfter_ret, hp]
    rfl

private theorem run_draw (m : Machine ρ) {x y n : UInt8} (hx : x < 16) (hy : y < 16) :
    (draw x y n).carryOut.run m =
      match m.refusal (draw x y n) with
      | some f => .error (.fault f) m
      | none => .ok () (m.effect (draw x y n)) := by
  have hn : n.toNat ≤ 256 := Nat.le_of_lt n.toNat_lt
  simp only [carryOut, EStateM.run_bind, run_bytesAtIndex hn, Machine.refusal_draw]
  cases m.lack n.toNat with
  | some f => rfl
  | none =>
    simp only [run_reg hx, run_reg hy]
    rfl

private theorem run_storeRegisters (m : Machine ρ) {x : UInt8} (h : x < 16) :
    (storeRegisters x).carryOut.run m =
      match m.refusal (storeRegisters x) with
      | some f => .error (.fault f) m
      | none => .ok () (m.effect (storeRegisters x)) := by
  have hx : x.toNat < 16 := UInt8.lt_iff_toNat_lt.mp h
  have hl : (m.registers.v.toList.take (x.toNat + 1)).length = x.toNat + 1 := by
    rw [List.length_take, Vector.length_toList]
    omega
  have hu : m.registers.upTo x = .ok (m.registers.v.toList.take (x.toNat + 1)) := by
    rw [Registers.upTo, dif_pos hx, readCells_eq, List.drop_zero]
  simp only [carryOut, EStateM.run_bind, regsUpTo, EStateM.run_get, hu, Trap.ofMisuse, run_of_ok,
    run_writeAtIndex (Nat.le_trans (Nat.le_of_eq hl) (by omega)), hl]
  rfl

private theorem run_loadRegisters (m : Machine ρ) {x : UInt8} (h : x < 16) :
    (loadRegisters x).carryOut.run m =
      match m.refusal (loadRegisters x) with
      | some f => .error (.fault f) m
      | none => .ok () (m.effect (loadRegisters x)) := by
  have hx : x.toNat < 16 := UInt8.lt_iff_toNat_lt.mp h
  simp only [carryOut, EStateM.run_bind, run_bytesAtIndex (show x.toNat + 1 ≤ 256 by omega),
    Machine.refusal_loadRegisters]
  by_cases hn : memorySize < m.registers.index.toNat + (x.toNat + 1)
  · simp only [Machine.lack, if_pos hn]
  · have hl := Memory.length_window (m := m.memory) (Nat.le_of_not_lt hn)
    simp only [Machine.lack, if_neg hn, setRegsUpTo, EStateM.run_bind, EStateM.run_get,
      Registers.fill_eq h hl, Trap.ofMisuse, run_of_ok]
    rfl

/-- The work of an instruction whose operands fit is a fault on an untouched machine, or the whole
effect. -/
theorem run_carryOut (m : Machine ρ) {i : Instruction} (h : i.Encodable) :
    i.carryOut.run m =
      match m.refusal i with
      | some f => .error (.fault f) m
      | none => .ok () (m.effect i) := by
  cases i with
  | clear | jump _ | loadIndex _ | waitKey _ => rfl
  | sys addr =>
    simp only [carryOut, EStateM.run_bind, EStateM.run_get, Machine.refusal_sys]
    cases m.dialect.sysCalls with
    | ignore => rfl
    | fault => rfl
  | loadByte x nn =>
    simp only [carryOut, run_setReg h]
    rfl
  | readDelay x =>
    simp only [carryOut, EStateM.run_bind, EStateM.run_get, run_setReg h]
    rfl
  | addByte x nn =>
    simp only [carryOut, EStateM.run_bind, run_reg h, run_setReg h]
    rfl
  | random x nn =>
    simp only [carryOut, EStateM.run_bind, randomByte, EStateM.run_get, EStateM.run_modify,
      EStateM.run_pure, run_setReg h]
    rfl
  | setDelay x | setSound x | addIndex x | loadGlyph x =>
    simp only [carryOut, EStateM.run_bind, run_reg h]
    rfl
  | move x y =>
    simp only [carryOut, EStateM.run_bind, run_reg h.2, run_setReg h.1]
    rfl
  | or x y | and x y | xor x y =>
    simp only [carryOut, EStateM.run_bind, run_reg h.1, run_reg h.2, run_setReg h.1]
    rfl
  | add x y | sub x y | subFrom x y =>
    simp only [carryOut, EStateM.run_bind, run_reg h.1, run_reg h.2, run_setRegFlag h.1]
    rfl
  | shiftRight x y | shiftLeft x y =>
    have hs : shiftOperand m.dialect x y < 16 := by
      unfold shiftOperand
      split
      · exact h.1
      · exact h.2
    simp only [carryOut, EStateM.run_bind, EStateM.run_get, run_reg hs, run_setRegFlag h.1]
    rfl
  | skipEqByte x nn | skipNeByte x nn =>
    simp only [carryOut, EStateM.run_bind, run_reg h, run_skipIf]
    rfl
  | skipKeyDown x | skipKeyUp x =>
    simp only [carryOut, EStateM.run_bind, EStateM.run_get, run_reg h, run_skipIf]
    rfl
  | skipEq x y | skipNe x y =>
    simp only [carryOut, EStateM.run_bind, run_reg h.1, run_reg h.2, run_skipIf]
    rfl
  | jumpOffset addr => exact run_jumpOffset m h
  | call addr => exact run_call m addr
  | ret => exact run_ret m
  | draw x y n => exact run_draw m h.1 h.2.1
  | storeDecimal x =>
    have hl : (decimalDigits (m.v x)).length ≤ 256 := by simp [decimalDigits]
    simp only [carryOut, EStateM.run_bind, run_reg h, run_writeAtIndex hl]
    rfl
  | storeRegisters x => exact run_storeRegisters m h
  | loadRegisters x => exact run_loadRegisters m h

/-- The work of an instruction that is refused only for lack of bytes at I is told by whether they
exist. -/
theorem run_carryOut_of_lack (m : Machine ρ) {i : Instruction} {length : Nat} (h : i.Encodable)
    (hr : m.refusal i = m.lack length) :
    i.carryOut.run m =
      if memorySize < m.registers.index.toNat + length then
        .error (.fault (.outOfBounds (max m.registers.index.toNat memorySize))) m
      else .ok () (m.effect i) := by
  rw [run_carryOut m h, hr, Machine.lack]
  by_cases hn : memorySize < m.registers.index.toNat + length
  · rw [if_pos hn, if_pos hn]
    rfl
  · rw [if_neg hn, if_neg hn]

end Instruction
end Chip8
