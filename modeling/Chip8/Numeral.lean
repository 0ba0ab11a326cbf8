/-!
# Numerals

The written forms of numbers: decimal, and hexadecimal padded with zeroes on the left to a
least number of digits. Padding never cuts a number short, so each form reads back.
-/

namespace Chip8.Numeral

/-- Decimal digits, without leading zeroes. -/
def decimal (n : Nat) : String := String.ofList (Nat.toDigits 10 n)

/-- Lower case hexadecimal with at least `width` digits. -/
def hex (width n : Nat) : String := String.ofList ((Nat.toDigits 16 n).leftpad width '0')

/-- `hex` after the mark `0x`; the mark does not count towards the width. -/
def hexMarked (width n : Nat) : String := "0x" ++ hex width n

/-- Upper case hexadecimal, without leading zeroes. -/
def hexUpper (n : Nat) : String := String.ofList ((Nat.toDigits 16 n).map Char.toUpper)

/-- The value of a digit, in either case. -/
def digitValue (c : Char) : Nat := if c.isDigit then c.toNat - 48 else c.toUpper.toNat - 55

/-- The number that digits stand for. -/
def value (base : Nat) (digits : List Char) : Nat :=
  digits.foldl (fun n c => base * n + digitValue c) 0

/-- The number that decimal digits stand for, if there is at least one; a plus sign may stand
before them. -/
def natural? (text : List Char) : Option Nat :=
  let digits :=
    match text with
    | '+' :: rest => rest
    | _ => text
  if digits ≠ [] ∧ digits.all Char.isDigit then some (value 10 digits) else none

/-- A lower case digit has the value it was made for. -/
theorem digitValue_digitChar (d : Nat) (h : d < 16) : digitValue d.digitChar = d := by
  revert h; revert d; decide

/-- An upper case digit has the value it was made for. -/
theorem digitValue_toUpper_digitChar (d : Nat) (h : d < 16) :
    digitValue d.digitChar.toUpper = d := by
  revert h; revert d; decide

private theorem foldl_toDigits (base : Nat) (f : Char → Char) (h1 : 1 < base)
    (hf : ∀ d < base, digitValue (f d.digitChar) = d) (n : Nat) :
    ((Nat.toDigits base n).map f).foldl (fun n c => base * n + digitValue c) 0 = n := by
  induction n using Nat.strongRecOn with
  | ind n ih =>
    rw [Nat.toDigits_eq_if h1]
    split
    · next h => simp [hf n h]
    · next h =>
      have hlt : n / base < n := Nat.div_lt_self (by omega) h1
      simp only [List.map_append, List.foldl_append, ih _ hlt, List.map_cons, List.map_nil,
        List.foldl_cons, List.foldl_nil, hf _ (Nat.mod_lt n (by omega))]
      exact Nat.div_add_mod n base

/-- Zeroes on the left do not count. -/
theorem value_replicate_zero (base k : Nat) (digits : List Char) :
    value base (List.replicate k '0' ++ digits) = value base digits := by
  induction k with
  | zero => rfl
  | succ k ih =>
    rw [List.replicate_succ, List.cons_append, value, List.foldl_cons]
    simpa [digitValue, value] using ih

/-- A decimal number reads back. -/
theorem value_decimal (n : Nat) : value 10 (decimal n).toList = n := by
  have h := foldl_toDigits 10 id (by decide) (fun d h => digitValue_digitChar d (by omega)) n
  simpa [decimal, value] using h

/-- A hexadecimal number reads back, whatever its padding. -/
theorem value_hex (width n : Nat) : value 16 (hex width n).toList = n := by
  have h := foldl_toDigits 16 id (by decide) (fun d h => digitValue_digitChar d h) n
  rw [hex, String.toList_ofList, List.leftpad, value_replicate_zero]
  simpa [value] using h

/-- An upper case hexadecimal number reads back. -/
theorem value_hexUpper (n : Nat) : value 16 (hexUpper n).toList = n := by
  rw [hexUpper, String.toList_ofList]
  exact foldl_toDigits 16 _ (by decide) (fun d h => digitValue_toUpper_digitChar d h) n

/-! ### Characters of numerals -/

/-- A numeral consists of digits of its base. -/
theorem exists_digitChar_of_mem_toDigits {base n : Nat} {c : Char} (h1 : 1 < base)
    (hc : c ∈ Nat.toDigits base n) : ∃ d < base, d.digitChar = c := by
  induction n using Nat.strongRecOn with
  | ind n ih =>
    rw [Nat.toDigits_eq_if h1] at hc
    split at hc
    · next h => exact ⟨n, h, (List.mem_singleton.mp hc).symm⟩
    · next h =>
      rcases List.mem_append.mp hc with hc | hc
      · exact ih (n / base) (Nat.div_lt_self (by omega) h1) hc
      · exact ⟨n % base, Nat.mod_lt n (by omega), (List.mem_singleton.mp hc).symm⟩

private theorem isAlphanum_digitChar (d : Nat) (h : d < 16) :
    d.digitChar.isAlphanum = true ∧ d.digitChar.toUpper.isAlphanum = true := by
  revert h; revert d; decide

/-- Decimal numbers consist of letters and digits. -/
theorem isAlphanum_of_mem_decimal {n : Nat} {c : Char} (hc : c ∈ (decimal n).toList) :
    c.isAlphanum = true := by
  rw [decimal, String.toList_ofList] at hc
  obtain ⟨d, hd, rfl⟩ := exists_digitChar_of_mem_toDigits (by decide) hc
  exact (isAlphanum_digitChar d (by omega)).1

/-- Upper case hexadecimal numbers consist of letters and digits. -/
theorem isAlphanum_of_mem_hexUpper {n : Nat} {c : Char} (hc : c ∈ (hexUpper n).toList) :
    c.isAlphanum = true := by
  rw [hexUpper, String.toList_ofList] at hc
  obtain ⟨_, hdigit, rfl⟩ := List.mem_map.mp hc
  obtain ⟨d, hd, rfl⟩ := exists_digitChar_of_mem_toDigits (by decide) hdigit
  exact (isAlphanum_digitChar d hd).2

/-- Marked hexadecimal numbers consist of letters and digits, their marks and padding included. -/
theorem isAlphanum_of_mem_hexMarked {width n : Nat} {c : Char}
    (hc : c ∈ (hexMarked width n).toList) : c.isAlphanum = true := by
  have hmark : "0x".toList.all Char.isAlphanum = true := rfl
  simp only [hexMarked, hex, String.toList_append, String.toList_ofList, List.leftpad,
    List.mem_append] at hc
  rcases hc with hc | hzero | hdigit
  · exact List.all_eq_true.mp hmark c hc
  · rw [List.eq_of_mem_replicate hzero]
    rfl
  · obtain ⟨d, hd, rfl⟩ := exists_digitChar_of_mem_toDigits (by decide) hdigit
    exact (isAlphanum_digitChar d hd).1

end Chip8.Numeral
