import Chip8.Instruction.Mnemonic
import Chip8.Proofs.Decoding

/-!
# Mnemonics read back

A mnemonic is cut at its blanks into the name of an operation and its operands, and an operand shows
by its first characters whether it is a register, a number or a name. The instruction is found again
from these, so that no two instructions are written alike.
-/

namespace Chip8.Instruction

/-! ### Operands -/

/-- What is written in the place of an operand. -/
inductive Operand where
  /-- A register. -/
  | register (x : UInt8)
  /-- A byte, a nibble or an address. -/
  | number (n : Nat)
  /-- Anything else. -/
  | named (name : String)

/-- Read an operand. A number is decimal unless it is marked. -/
def Operand.read (text : String) : Operand :=
  match text.toList with
  | 'V' :: digits => .register (UInt8.ofNat (Numeral.value 16 digits))
  | '0' :: 'x' :: digits => .number (Numeral.value 16 digits)
  | digits => if digits.all Char.isDigit then .number (Numeral.value 10 digits) else .named text

/-- The name of a register reads back. -/
theorem read_registerName (x : UInt8) : Operand.read (registerName x) = .register x := by
  rw [Operand.read, registerName, String.toList_append]
  change Operand.register (UInt8.ofNat (Numeral.value 16 (Numeral.hexUpper x.toNat).toList)) = _
  rw [Numeral.value_hexUpper, UInt8.ofNat_toNat]

/-- A marked number reads back, whatever its padding. -/
theorem read_hexMarked (width n : Nat) : Operand.read (Numeral.hexMarked width n) = .number n := by
  rw [Operand.read, Numeral.hexMarked, String.toList_append]
  change Operand.number (Numeral.value 16 (Numeral.hex width n).toList) = _
  rw [Numeral.value_hex]

/-- A decimal number reads back. -/
theorem read_decimal (n : Nat) : Operand.read (Numeral.decimal n) = .number n := by
  have hall : (Numeral.decimal n).toList.all Char.isDigit = true := by
    rw [Numeral.decimal, String.toList_ofList, List.all_eq_true]
    intro c hc
    exact Nat.isDigit_of_mem_toDigits (by decide) (by decide) hc
  -- A decimal digit is neither the letter of a register nor part of a mark.
  unfold Operand.read
  split
  · next h =>
    rw [h] at hall
    cases hall
  · next h =>
    rw [h] at hall
    cases hall
  · rw [if_pos hall, Numeral.value_decimal]

/-! ### Words -/

/-- The words of a line, without its commas. -/
def words (line : String) : List String :=
  ((line.toList.filter (· ≠ ',')).splitOn ' ').map String.ofList

/-- A text without blanks and commas. -/
def IsWord (text : String) : Prop := text.toList.all (fun c ↦ c ≠ ' ' ∧ c ≠ ',') = true

/-- Words end at a blank, with a comma before it or without. -/
theorem words_separated (sep : String) (h : sep.toList.filter (· ≠ ',') = [' '])
    (s t : String) : words (s ++ sep ++ t) = words s ++ words t := by
  rw [words, words, words, ← List.map_append, ← List.splitOn_append_cons_self,
    String.toList_append, String.toList_append, List.filter_append, List.filter_append, h,
    List.append_assoc]
  rfl

/-- A word is a line of its own. -/
theorem words_of_isWord {text : String} (h : IsWord text) : words text = [text] := by
  have hplain : ∀ c ∈ text.toList, c ≠ ' ' ∧ c ≠ ',' := by
    intro c hc
    exact of_decide_eq_true (List.all_eq_true.mp h c hc)
  have hfilter : text.toList.filter (· ≠ ',') = text.toList := by
    apply List.filter_eq_self.mpr
    intro c hc
    exact decide_eq_true (hplain c hc).2
  have hblank : ' ' ∉ text.toList := fun hc ↦ (hplain ' ' hc).1 rfl
  rw [words, hfilter, List.splitOn_eq_singleton hblank, List.map_singleton, String.ofList_toList]

/-- Letters and digits make a word. -/
theorem isWord_of_isAlphanum {text : String} (h : ∀ c ∈ text.toList, c.isAlphanum = true) :
    IsWord text := by
  apply List.all_eq_true.mpr
  intro c hc
  have halnum := h c hc
  apply decide_eq_true
  constructor
  · rintro rfl
    cases halnum
  · rintro rfl
    cases halnum

/-! ### Lines -/

/-- The instruction with an operation name and operands, if there is one. -/
def ofOperation? : String → List Operand → Option Instruction
  | "SYS", [.number a] => some (.sys (UInt16.ofNat a))
  | "CLS", [] => some .clear
  | "RET", [] => some .ret
  | "JP", [.number a] => some (.jump (UInt16.ofNat a))
  | "JP", [.register 0, .number a] => some (.jumpOffset (UInt16.ofNat a))
  | "CALL", [.number a] => some (.call (UInt16.ofNat a))
  | "SE", [.register x, .number nn] => some (.skipEqByte x (UInt8.ofNat nn))
  | "SE", [.register x, .register y] => some (.skipEq x y)
  | "SNE", [.register x, .number nn] => some (.skipNeByte x (UInt8.ofNat nn))
  | "SNE", [.register x, .register y] => some (.skipNe x y)
  | "LD", [.register x, .number nn] => some (.loadByte x (UInt8.ofNat nn))
  | "LD", [.register x, .register y] => some (.move x y)
  | "LD", [.register x, .named "DT"] => some (.readDelay x)
  | "LD", [.register x, .named "K"] => some (.waitKey x)
  | "LD", [.register x, .named "[I]"] => some (.loadRegisters x)
  | "LD", [.named "I", .number a] => some (.loadIndex (UInt16.ofNat a))
  | "LD", [.named "DT", .register x] => some (.setDelay x)
  | "LD", [.named "ST", .register x] => some (.setSound x)
  | "LD", [.named "F", .register x] => some (.loadGlyph x)
  | "LD", [.named "B", .register x] => some (.storeDecimal x)
  | "LD", [.named "[I]", .register x] => some (.storeRegisters x)
  | "ADD", [.register x, .number nn] => some (.addByte x (UInt8.ofNat nn))
  | "ADD", [.register x, .register y] => some (.add x y)
  | "ADD", [.named "I", .register x] => some (.addIndex x)
  | "OR", [.register x, .register y] => some (.or x y)
  | "AND", [.register x, .register y] => some (.and x y)
  | "XOR", [.register x, .register y] => some (.xor x y)
  | "SUB", [.register x, .register y] => some (.sub x y)
  | "SUBN", [.register x, .register y] => some (.subFrom x y)
  | "SHR", [.register x, .register y] => some (.shiftRight x y)
  | "SHL", [.register x, .register y] => some (.shiftLeft x y)
  | "RND", [.register x, .number nn] => some (.random x (UInt8.ofNat nn))
  | "DRW", [.register x, .register y, .number n] => some (.draw x y (UInt8.ofNat n))
  | "SKP", [.register x] => some (.skipKeyDown x)
  | "SKNP", [.register x] => some (.skipKeyUp x)
  | _, _ => none

/-- Read a mnemonic. -/
def ofMnemonic? (line : String) : Option Instruction :=
  match words line with
  | op :: operands => ofOperation? op (operands.map Operand.read)
  | [] => none

/-- A text is one word and reads as an operand. -/
structure Spells (text : String) (operand : Operand) : Prop where
  isWord : IsWord text
  read : Operand.read text = operand

/-- A register is spelt by its name. -/
theorem spells_registerName (x : UInt8) : Spells (registerName x) (.register x) := by
  refine ⟨isWord_of_isAlphanum ?_, read_registerName x⟩
  intro c hc
  rw [registerName, String.toList_append] at hc
  rcases List.mem_cons.mp hc with rfl | hc
  · rfl
  · exact Numeral.isAlphanum_of_mem_hexUpper hc

/-- A byte or an address is spelt with its mark. -/
theorem spells_hexMarked (width n : Nat) : Spells (Numeral.hexMarked width n) (.number n) :=
  ⟨isWord_of_isAlphanum fun _ ↦ Numeral.isAlphanum_of_mem_hexMarked, read_hexMarked width n⟩

/-- A nibble is spelt without a mark. -/
theorem spells_decimal (n : Nat) : Spells (Numeral.decimal n) (.number n) :=
  ⟨isWord_of_isAlphanum fun _ ↦ Numeral.isAlphanum_of_mem_decimal, read_decimal n⟩

section

variable {a b c : String} {A B C : Operand}

/-- A line with one operand. -/
theorem ofMnemonic?_one (op : String) (hop : IsWord op) (ha : Spells a A) :
    ofMnemonic? (op ++ " " ++ a) = ofOperation? op [A] := by
  rw [ofMnemonic?, words_separated " " rfl, words_of_isWord hop, words_of_isWord ha.isWord,
    ← ha.read]
  rfl

/-- A line with two operands. -/
theorem ofMnemonic?_two (op : String) (hop : IsWord op) (ha : Spells a A) (hb : Spells b B) :
    ofMnemonic? (op ++ " " ++ a ++ ", " ++ b) = ofOperation? op [A, B] := by
  rw [ofMnemonic?, words_separated ", " rfl, words_separated " " rfl, words_of_isWord hop,
    words_of_isWord ha.isWord, words_of_isWord hb.isWord, ← ha.read, ← hb.read]
  rfl

/-- A line with three operands. -/
theorem ofMnemonic?_three (op : String) (hop : IsWord op) (ha : Spells a A) (hb : Spells b B)
    (hc : Spells c C) :
    ofMnemonic? (op ++ " " ++ a ++ ", " ++ b ++ ", " ++ c) = ofOperation? op [A, B, C] := by
  rw [ofMnemonic?, words_separated ", " rfl, words_separated ", " rfl, words_separated " " rfl,
    words_of_isWord hop, words_of_isWord ha.isWord, words_of_isWord hb.isWord,
    words_of_isWord hc.isWord, ← ha.read, ← hb.read, ← hc.read]
  rfl

end

/-- A line with a register and a byte. -/
theorem ofMnemonic?_withByte {op : String} (hop : IsWord op) (x nn : UInt8) :
    ofMnemonic? (withByte op x nn) = ofOperation? op [.register x, .number nn.toNat] :=
  ofMnemonic?_two op hop (spells_registerName x) (spells_hexMarked 2 _)

/-- A line with two registers. -/
theorem ofMnemonic?_withRegisters {op : String} (hop : IsWord op) (x y : UInt8) :
    ofMnemonic? (withRegisters op x y) = ofOperation? op [.register x, .register y] :=
  ofMnemonic?_two op hop (spells_registerName x) (spells_registerName y)

/-- A line that loads a register from something with a name. -/
theorem ofMnemonic?_load (x : UInt8) (name : String) (h : Spells name (.named name)) :
    ofMnemonic? ("LD " ++ registerName x ++ (", " ++ name)) =
      ofOperation? "LD" [.register x, .named name] := by
  rw [← String.append_assoc]
  exact ofMnemonic?_two "LD" rfl (spells_registerName x) h

/-- A line with a name and a register. -/
theorem ofMnemonic?_named (op name : String) (hop : IsWord op) (h : Spells name (.named name))
    (x : UInt8) : ofMnemonic? (op ++ " " ++ name ++ ", " ++ registerName x) =
      ofOperation? op [.named name, .register x] :=
  ofMnemonic?_two op hop h (spells_registerName x)

/-- Every mnemonic reads back. -/
theorem ofMnemonic?_mnemonic (i : Instruction) : ofMnemonic? (mnemonic i) = some i := by
  -- The table finds a byte or an address from its number.
  have byte : ∀ nn : UInt8, UInt8.ofNat nn.toNat = nn := fun _ ↦ UInt8.ofNat_toNat
  have address : ∀ addr : UInt16, UInt16.ofNat addr.toNat = addr := fun _ ↦ UInt16.ofNat_toNat
  cases i with
  | clear | ret => rfl
  | sys addr =>
    exact (ofMnemonic?_one "SYS" rfl (spells_hexMarked 3 _)).trans
      (congrArg (some ∘ sys) (address addr))
  | jump addr =>
    exact (ofMnemonic?_one "JP" rfl (spells_hexMarked 3 _)).trans
      (congrArg (some ∘ jump) (address addr))
  | call addr =>
    exact (ofMnemonic?_one "CALL" rfl (spells_hexMarked 3 _)).trans
      (congrArg (some ∘ call) (address addr))
  | loadIndex addr =>
    exact (ofMnemonic?_two "LD" rfl (a := "I") ⟨rfl, rfl⟩ (spells_hexMarked 3 _)).trans
      (congrArg (some ∘ loadIndex) (address addr))
  | jumpOffset addr =>
    exact (ofMnemonic?_two "JP" rfl (spells_registerName 0) (spells_hexMarked 3 _)).trans
      (congrArg (some ∘ jumpOffset) (address addr))
  | skipEqByte x nn | skipNeByte x nn | loadByte x nn | addByte x nn | random x nn =>
    rw [mnemonic, ofMnemonic?_withByte]
    · conv => rhs; rw [← byte nn]
      rfl
    · rfl
  | skipEq x y | move x y | or x y | and x y | xor x y | add x y | sub x y | shiftRight x y
  | subFrom x y | shiftLeft x y | skipNe x y =>
    rw [mnemonic, ofMnemonic?_withRegisters]
    · rfl
    · rfl
  | draw x y n =>
    exact (ofMnemonic?_three "DRW" rfl (spells_registerName x) (spells_registerName y)
      (spells_decimal _)).trans (congrArg (some ∘ draw x y) (byte n))
  | skipKeyDown x => exact ofMnemonic?_one "SKP" rfl (spells_registerName x)
  | skipKeyUp x => exact ofMnemonic?_one "SKNP" rfl (spells_registerName x)
  | readDelay x => exact ofMnemonic?_load x "DT" ⟨rfl, rfl⟩
  | waitKey x => exact ofMnemonic?_load x "K" ⟨rfl, rfl⟩
  | loadRegisters x => exact ofMnemonic?_load x "[I]" ⟨rfl, rfl⟩
  | setDelay x => exact ofMnemonic?_named "LD" "DT" rfl ⟨rfl, rfl⟩ x
  | setSound x => exact ofMnemonic?_named "LD" "ST" rfl ⟨rfl, rfl⟩ x
  | addIndex x => exact ofMnemonic?_named "ADD" "I" rfl ⟨rfl, rfl⟩ x
  | loadGlyph x => exact ofMnemonic?_named "LD" "F" rfl ⟨rfl, rfl⟩ x
  | storeDecimal x => exact ofMnemonic?_named "LD" "B" rfl ⟨rfl, rfl⟩ x
  | storeRegisters x => exact ofMnemonic?_named "LD" "[I]" rfl ⟨rfl, rfl⟩ x

/-- The first register is written like any other in front of an address. -/
example : ofMnemonic? "JP V0, 0x234" = some (.jumpOffset 0x234) := rfl

/-- No two instructions are written alike. -/
theorem mnemonic_injective : Function.Injective mnemonic := by
  intro i j h
  apply Option.some.inj
  rw [← ofMnemonic?_mnemonic i, ← ofMnemonic?_mnemonic j, h]

/-- A mnemonic tells its instruction, whatever the operands are. So among the words that stand for
an instruction it tells the word as well. -/
theorem mnemonic_unambiguous :
    (∀ i j : Instruction, mnemonic i = mnemonic j → i = j) ∧
      ∀ word word' i j, decode word = .ok i → decode word' = .ok j →
        mnemonic i = mnemonic j → word = word' := by
  refine ⟨fun i j h ↦ mnemonic_injective h, ?_⟩
  intro word word' i j hi hj h
  apply decode_injective
  rw [hi, hj, mnemonic_injective h]

end Chip8.Instruction
