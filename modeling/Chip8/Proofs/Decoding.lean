import Chip8.Instruction.Encoding

/-!
# Words and their instructions

A word that stands for an instruction gives it operands that fit their fields, and is the word
of that instruction: reading loses nothing. The other way round, the word of an instruction whose
operands fit stands for it, so that the table is read exactly as it is written.
-/

namespace Chip8.Instruction

/-- The first selector is cut from four bits. -/
theorem xOf_lt (word : UInt16) : xOf word < 16 := by
  rw [UInt8.lt_iff_toNat_lt, xOf, UInt8.toNat_ofNat']
  exact Nat.lt_of_le_of_lt (Nat.mod_le _ _) (Nat.mod_lt _ (by decide))

/-- The second selector is cut from four bits. -/
theorem yOf_lt (word : UInt16) : yOf word < 16 := by
  rw [UInt8.lt_iff_toNat_lt, yOf, UInt8.toNat_ofNat']
  exact Nat.lt_of_le_of_lt (Nat.mod_le _ _) (Nat.mod_lt _ (by decide))

private theorem n_lt (word : UInt16) : UInt8.ofNat (nOf word) < 16 := by
  rw [UInt8.lt_iff_toNat_lt, nOf, UInt8.toNat_ofNat']
  exact Nat.lt_of_le_of_lt (Nat.mod_le _ _) (Nat.mod_lt _ (by decide))

private theorem toNat_nnn (word : UInt16) : (UInt16.ofNat (nnnOf word)).toNat = nnnOf word := by
  rw [UInt16.toNat_ofNat', nnnOf]
  omega

private theorem toNat_nn (word : UInt16) : (UInt8.ofNat (nnOf word)).toNat = nnOf word := by
  rw [UInt8.toNat_ofNat', nnOf]
  omega

private theorem toNat_n (word : UInt16) : (UInt8.ofNat (nOf word)).toNat = nOf word := by
  rw [UInt8.toNat_ofNat', nOf]
  omega

/-- An address is cut from twelve bits. -/
theorem nnn_lt (word : UInt16) : UInt16.ofNat (nnnOf word) < 0x1000 := by
  rw [UInt16.lt_iff_toNat_lt, toNat_nnn]
  exact Nat.mod_lt _ (by decide)

/-! ### Putting the fields together again -/

private theorem wordNNN_fields {row : Nat} {word : UInt16} (h : classOf word = row) :
    wordNNN row (UInt16.ofNat (nnnOf word)) = word := by
  rw [wordNNN, toNat_nnn, ← h, classOf, nnnOf, ← UInt16.toNat_inj, UInt16.toNat_ofNat']
  have := word.toNat_lt
  omega

private theorem wordXNN_fields {row nn : Nat} {word : UInt16} (h : classOf word = row)
    (hn : nnOf word = nn) : wordXNN row (xOf word) nn = word := by
  rw [wordXNN, ← h, ← hn, classOf, nnOf, xOf, ← UInt16.toNat_inj, UInt16.toNat_ofNat',
    UInt8.toNat_ofNat']
  have := word.toNat_lt
  omega

private theorem wordXYN_fields {row n : Nat} {word : UInt16} (h : classOf word = row)
    (hn : nOf word = n) : wordXYN row (xOf word) (yOf word) n = word := by
  rw [wordXYN, ← h, ← hn, classOf, nOf, xOf, yOf, ← UInt16.toNat_inj, UInt16.toNat_ofNat',
    UInt8.toNat_ofNat', UInt8.toNat_ofNat']
  have := word.toNat_lt
  omega

/-- The operands fit, and the word reads back. -/
def Reads (word : UInt16) (i : Instruction) : Prop := i.Encodable ∧ encode i = word

private theorem reads_byte {row : Nat} {word : UInt16} (h : classOf word = row) :
    wordXNN row (xOf word) (UInt8.ofNat (nnOf word)).toNat = word :=
  wordXNN_fields h (toNat_nn word).symm

private theorem reads_system {word : UInt16} (h : classOf word = 0) :
    Reads word (ofSystemWord word) := by
  have hw := wordNNN_fields h
  unfold ofSystemWord
  split
  · next hn => exact ⟨True.intro, by rw [← hw, hn]; rfl⟩
  · next hn => exact ⟨True.intro, by rw [← hw, hn]; rfl⟩
  · next h0 h1 =>
    refine ⟨⟨nnn_lt word, ?_, ?_⟩, hw⟩
    · intro he
      exact h0 (by rw [← toNat_nnn, he]; rfl)
    · intro he
      exact h1 (by rw [← toNat_nnn, he]; rfl)

private theorem reads_arithmetic {word : UInt16} {i : Instruction} (h : classOf word = 8)
    (hi : ofArithmeticWord? word = some i) : Reads word i := by
  unfold ofArithmeticWord? at hi
  split at hi
  case h_10 => cases hi
  all_goals
    next hn =>
      cases hi
      exact ⟨⟨xOf_lt word, yOf_lt word⟩, wordXYN_fields h hn⟩

private theorem reads_key {word : UInt16} {i : Instruction} (h : classOf word = 0xE)
    (hi : ofKeyWord? word = some i) : Reads word i := by
  unfold ofKeyWord? at hi
  split at hi
  case h_3 => cases hi
  all_goals
    next hn =>
      cases hi
      exact ⟨xOf_lt word, wordXNN_fields h hn⟩

private theorem reads_transfer {word : UInt16} {i : Instruction} (h : classOf word = 0xF)
    (hi : ofTransferWord? word = some i) : Reads word i := by
  unfold ofTransferWord? at hi
  split at hi
  case h_10 => cases hi
  all_goals
    next hn =>
      cases hi
      exact ⟨xOf_lt word, wordXNN_fields h hn⟩

/-- A word that stands for an instruction is the word of that instruction, whose operands fit. -/
theorem reads_of_ofWord? {word : UInt16} {i : Instruction} (h : ofWord? word = some i) :
    Reads word i := by
  unfold ofWord? at h
  split at h
  case h_1 hc => cases h; exact reads_system hc
  case h_2 hc | h_3 hc | h_11 hc | h_12 hc =>
    cases h
    exact ⟨nnn_lt word, wordNNN_fields hc⟩
  case h_4 hc | h_5 hc | h_7 hc | h_8 hc | h_13 hc =>
    cases h
    exact ⟨xOf_lt word, reads_byte hc⟩
  case h_6 hc | h_10 hc =>
    split at h
    · next hn =>
      cases h
      exact ⟨⟨xOf_lt word, yOf_lt word⟩, wordXYN_fields hc hn⟩
    · cases h
  case h_9 hc => exact reads_arithmetic hc h
  case h_14 hc =>
    cases h
    exact ⟨⟨xOf_lt word, yOf_lt word, n_lt word⟩, wordXYN_fields hc (toNat_n word).symm⟩
  case h_15 hc => exact reads_key hc h
  case h_16 hc => exact reads_transfer hc h
  case h_17 => cases h

/-! ### Taking the fields apart -/

section

variable {row nn n : Nat} {x y : UInt8} {addr : UInt16}

private theorem toNat_wordNNN (hr : row < 16) (ha : addr < 0x1000) :
    (wordNNN row addr).toNat = row * 0x1000 + addr.toNat := by
  have ha' : addr.toNat < 0x1000 := UInt16.lt_iff_toNat_lt.mp ha
  rw [wordNNN, UInt16.toNat_ofNat']
  omega

/-- The class of a word with an address. -/
theorem classOf_wordNNN (hr : row < 16) (ha : addr < 0x1000) :
    classOf (wordNNN row addr) = row := by
  have ha' : addr.toNat < 0x1000 := UInt16.lt_iff_toNat_lt.mp ha
  rw [classOf, toNat_wordNNN hr ha]
  omega

/-- The address of a word with an address. -/
theorem nnnOf_wordNNN (hr : row < 16) (ha : addr < 0x1000) :
    nnnOf (wordNNN row addr) = addr.toNat := by
  have ha' : addr.toNat < 0x1000 := UInt16.lt_iff_toNat_lt.mp ha
  rw [nnnOf, toNat_wordNNN hr ha]
  omega

private theorem toNat_wordXNN (hr : row < 16) (hx : x < 16) (hn : nn < 0x100) :
    (wordXNN row x nn).toNat = row * 0x1000 + x.toNat * 0x100 + nn := by
  have hx' : x.toNat < 16 := UInt8.lt_iff_toNat_lt.mp hx
  rw [wordXNN, UInt16.toNat_ofNat']
  omega

/-- The class of a word with one selector and a low byte. -/
theorem classOf_wordXNN (hr : row < 16) (hx : x < 16) (hn : nn < 0x100) :
    classOf (wordXNN row x nn) = row := by
  have hx' : x.toNat < 16 := UInt8.lt_iff_toNat_lt.mp hx
  rw [classOf, toNat_wordXNN hr hx hn]
  omega

/-- The selector of a word with one selector and a low byte. -/
theorem xOf_wordXNN (hr : row < 16) (hx : x < 16) (hn : nn < 0x100) :
    xOf (wordXNN row x nn) = x := by
  have hx' : x.toNat < 16 := UInt8.lt_iff_toNat_lt.mp hx
  rw [← UInt8.toNat_inj, xOf, UInt8.toNat_ofNat', toNat_wordXNN hr hx hn]
  omega

/-- The low byte of a word with one selector and a low byte. -/
theorem nnOf_wordXNN (hr : row < 16) (hx : x < 16) (hn : nn < 0x100) :
    nnOf (wordXNN row x nn) = nn := by
  rw [nnOf, toNat_wordXNN hr hx hn]
  omega

private theorem wordXYN_eq (row : Nat) (x : UInt8) (hy : y < 16) (hn : n < 16) :
    wordXYN row x y n = wordXNN row x (y.toNat * 0x10 + n) ∧ y.toNat * 0x10 + n < 0x100 := by
  have hy' : y.toNat < 16 := UInt8.lt_iff_toNat_lt.mp hy
  refine ⟨?_, by omega⟩
  rw [wordXYN, wordXNN, Nat.add_assoc]

/-- The class of a word with two selectors and a low nibble, whose low byte is the second selector
and the nibble. -/
theorem classOf_wordXYN (hr : row < 16) (hx : x < 16) (hy : y < 16) (hn : n < 16) :
    classOf (wordXYN row x y n) = row := by
  obtain ⟨hword, hnn⟩ := wordXYN_eq row x hy hn
  rw [hword, classOf_wordXNN hr hx hnn]

/-- The first selector of a word with two selectors and a low nibble. -/
theorem xOf_wordXYN (hr : row < 16) (hx : x < 16) (hy : y < 16) (hn : n < 16) :
    xOf (wordXYN row x y n) = x := by
  obtain ⟨hword, hnn⟩ := wordXYN_eq row x hy hn
  rw [hword, xOf_wordXNN hr hx hnn]

/-- The second selector of a word with two selectors and a low nibble. -/
theorem yOf_wordXYN (hr : row < 16) (hx : x < 16) (hy : y < 16) (hn : n < 16) :
    yOf (wordXYN row x y n) = y := by
  have hy' : y.toNat < 16 := UInt8.lt_iff_toNat_lt.mp hy
  obtain ⟨hword, hnn⟩ := wordXYN_eq row x hy hn
  rw [hword, ← UInt8.toNat_inj, yOf, UInt8.toNat_ofNat', toNat_wordXNN hr hx hnn]
  omega

/-- The low nibble of a word with two selectors and a low nibble. -/
theorem nOf_wordXYN (hr : row < 16) (hx : x < 16) (hy : y < 16) (hn : n < 16) :
    nOf (wordXYN row x y n) = n := by
  obtain ⟨hword, hnn⟩ := wordXYN_eq row x hy hn
  rw [hword, nOf, toNat_wordXNN hr hx hnn]
  omega

end

private theorem ofWord?_encode_sys {addr : UInt16} (h : (sys addr).Encodable) :
    ofWord? (encode (sys addr)) = some (sys addr) := by
  obtain ⟨ha, hclear, hret⟩ := h
  have hr : 0 < 16 := by decide
  simp only [encode, ofWord?, classOf_wordNNN hr ha, ofSystemWord, nnnOf_wordNNN hr ha]
  split
  · next h => exact absurd (UInt16.toNat_inj.mp h) hclear
  · next h => exact absurd (UInt16.toNat_inj.mp h) hret
  · rw [UInt16.ofNat_toNat]

/-- The word of an instruction whose operands fit stands for it. -/
theorem ofWord?_encode {i : Instruction} (h : i.Encodable) : ofWord? (encode i) = some i := by
  cases i with
  | sys addr => exact ofWord?_encode_sys h
  | clear | ret => rfl
  | jump addr | call addr | loadIndex addr | jumpOffset addr =>
    have ha : addr < 0x1000 := h
    simp (disch := first | decide | assumption) only [encode, ofWord?, classOf_wordNNN,
      nnnOf_wordNNN, UInt16.ofNat_toNat]
  | skipEqByte x nn | skipNeByte x nn | loadByte x nn | addByte x nn | random x nn =>
    have hx : x < 16 := h
    have hn : nn.toNat < 0x100 := nn.toNat_lt
    simp (disch := first | decide | assumption) only [encode, ofWord?, classOf_wordXNN,
      xOf_wordXNN, nnOf_wordXNN, UInt8.ofNat_toNat]
  | skipEq x y | skipNe x y =>
    obtain ⟨hx, hy⟩ : x < 16 ∧ y < 16 := h
    simp (disch := first | decide | assumption) only [encode, ofWord?, classOf_wordXYN,
      xOf_wordXYN, yOf_wordXYN, nOf_wordXYN, if_true]
  | move x y | or x y | and x y | xor x y | add x y | sub x y | shiftRight x y | subFrom x y
  | shiftLeft x y =>
    obtain ⟨hx, hy⟩ : x < 16 ∧ y < 16 := h
    simp (disch := first | decide | assumption) only [encode, ofWord?, classOf_wordXYN,
      ofArithmeticWord?, xOf_wordXYN, yOf_wordXYN, nOf_wordXYN]
  | draw x y n =>
    obtain ⟨hx, hy, hn⟩ : x < 16 ∧ y < 16 ∧ n < 16 := h
    have hn' : n.toNat < 16 := UInt8.lt_iff_toNat_lt.mp hn
    simp (disch := first | decide | assumption) only [encode, ofWord?, classOf_wordXYN,
      xOf_wordXYN, yOf_wordXYN, nOf_wordXYN, UInt8.ofNat_toNat]
  | skipKeyDown x | skipKeyUp x =>
    have hx : x < 16 := h
    simp (disch := first | decide | assumption) only [encode, ofWord?, classOf_wordXNN,
      ofKeyWord?, xOf_wordXNN, nnOf_wordXNN]
  | readDelay x | waitKey x | setDelay x | setSound x | addIndex x | loadGlyph x | storeDecimal x
  | storeRegisters x | loadRegisters x =>
    have hx : x < 16 := h
    simp (disch := first | decide | assumption) only [encode, ofWord?, classOf_wordXNN,
      ofTransferWord?, xOf_wordXNN, nnOf_wordXNN]

/-- A word stands for an instruction if and only if it is its word and the operands fit. -/
theorem ofWord?_eq_some_iff {word : UInt16} {i : Instruction} :
    ofWord? word = some i ↔ i.Encodable ∧ encode i = word := by
  constructor
  · exact reads_of_ofWord?
  · rintro ⟨h, rfl⟩
    exact ofWord?_encode h

/-- A word is read as the instruction that it stands for. -/
theorem decode_eq_ok_iff {word : UInt16} {i : Instruction} :
    decode word = .ok i ↔ ofWord? word = some i := by
  unfold decode
  split
  · next hi => simp [hi]
  · next hi => simp [hi]

/-- What is read from a word has operands that fit. -/
theorem encodable_of_decode {word : UInt16} {i : Instruction} (h : decode word = .ok i) :
    i.Encodable :=
  (reads_of_ofWord? (decode_eq_ok_iff.mp h)).1

/-- A word that cannot be read is reported as it is. -/
theorem decode_eq_error_iff {word : UInt16} {f : Fault} :
    decode word = .error f ↔ ofWord? word = none ∧ f = .unknownOpcode word := by
  unfold decode
  split
  · next hi => simp [hi]
  · next hi => simp [hi, eq_comm]

/-- No two words are read alike. -/
theorem decode_injective : Function.Injective decode := by
  intro word word' h
  cases hread : decode word with
  | ok i =>
    have hword := (ofWord?_eq_some_iff.mp (decode_eq_ok_iff.mp hread)).2
    have hword' := (ofWord?_eq_some_iff.mp (decode_eq_ok_iff.mp (h.symm.trans hread))).2
    exact hword.symm.trans hword'
  | error f =>
    have hf := (decode_eq_error_iff.mp hread).2
    have hf' := (decode_eq_error_iff.mp (h.symm.trans hread)).2
    exact Fault.unknownOpcode.inj (hf.symm.trans hf')

/-- Reading and writing words by the table are inverse to each other. What is written is read back,
and a word that can be read is written again, with operands that fit. So no two words are read
alike, and a word that cannot be read is the word of no instruction and is reported as it is. -/
theorem decode_inverts_encode :
    (∀ i : Instruction, i.Encodable → decode (encode i) = .ok i) ∧
      (∀ word i, decode word = .ok i → i.Encodable ∧ encode i = word) ∧
      Function.Injective decode ∧
      ∀ word f, decode word = .error f →
        f = .unknownOpcode word ∧ ∀ i : Instruction, i.Encodable → encode i ≠ word := by
  refine ⟨?_, ?_, decode_injective, ?_⟩
  · intro i h
    exact decode_eq_ok_iff.mpr (ofWord?_encode h)
  · intro word i h
    exact ofWord?_eq_some_iff.mp (decode_eq_ok_iff.mp h)
  · intro word f h
    obtain ⟨hnone, hf⟩ := decode_eq_error_iff.mp h
    refine ⟨hf, ?_⟩
    rintro i hi rfl
    rw [ofWord?_encode hi] at hnone
    cases hnone

end Chip8.Instruction
