import Mathlib.Order.Bounds.Defs
import Chip8.Proofs.Effect

/-!
# Memory as a store

Whether an access is carried out can be told from its numbers: it is if all its bytes exist, and
else it names the first byte that does not. Only where the end of an access cannot be counted does
this fail.

However many runs of bytes have been written, overlapping, empty or refused, a byte is the one that
the latest write to it put there, and every way of reading memory tells the same bytes.
-/

namespace Chip8.Memory

variable {n : Nat}

/-! ### One access -/

/-- A slice gives the bytes of its window, as they are, if they exist. If one of them does not, it
is refused at the first address from `addr` on that has no byte. -/
structure SlicesExactly (m : Memory n) (addr : UInt16) (length : Nat) : Prop where
  within : addr.toNat + length ≤ n → ∃ bytes, m.slice addr length = .ok bytes ∧
    bytes.length = length ∧ ∀ k < length, bytes[k]? = m.cells[addr.toNat + k]?
  beyond : n < addr.toNat + length →
    m.slice addr length = .error (.fault (.outOfBounds (max addr.toNat n))) ∧
      IsLeast {k | addr.toNat ≤ k ∧ m.cells[k]? = none} (max addr.toNat n)

/-- The first address from `addr` on that has no byte. -/
theorem isLeast_missing (m : Memory n) (addr : UInt16) :
    IsLeast {k | addr.toNat ≤ k ∧ m.cells[k]? = none} (max addr.toNat n) := by
  constructor
  · exact ⟨Nat.le_max_left _ _, Vector.getElem?_eq_none (Nat.le_max_right _ _)⟩
  · rintro k ⟨hk, hnone⟩
    exact Nat.max_le.mpr ⟨hk, Vector.getElem?_eq_none_iff.mp hnone⟩

/-- A slice whose end can be counted is exact. -/
theorem slicesExactly_of_hasEnd (m : Memory n) {addr : UInt16} {length : Nat}
    (h : HasEnd addr length) : m.SlicesExactly addr length where
  within hn := by
    refine ⟨m.window addr length, ?_, length_window hn, fun k hk ↦ getElem?_window hk⟩
    rw [slice_eq h, if_neg (Nat.not_lt.mpr hn)]
  beyond hn := by
    refine ⟨?_, isLeast_missing m addr⟩
    rw [slice_eq h, if_pos hn]
    rfl

/-- A slice whose end cannot be counted is a misuse. -/
theorem slice_of_not_hasEnd (m : Memory n) {addr : UInt16} {length : Nat}
    (h : ¬HasEnd addr length) :
    m.slice addr length = .error (.misuse (.extentOverflow addr length)) := by
  unfold HasEnd at h
  rw [slice, check, if_pos (Nat.le_of_not_lt h)]

/-- The end of an exact slice can be counted. -/
theorem SlicesExactly.hasEnd {m : Memory n} {addr : UInt16} {length : Nat}
    (h : m.SlicesExactly addr length) : HasEnd addr length := by
  apply Classical.byContradiction
  intro hend
  have hslice := slice_of_not_hasEnd m hend
  by_cases hn : addr.toNat + length ≤ n
  · obtain ⟨bytes, hok, -⟩ := h.within hn
    cases hslice.symm.trans hok
  · cases hslice.symm.trans (h.beyond (Nat.lt_of_not_le hn)).1

/-- Slices are exact exactly when their end can be counted, and a misuse when it cannot. -/
theorem slicesExactly_iff (m : Memory n) (addr : UInt16) (length : Nat) :
    (m.SlicesExactly addr length ↔ HasEnd addr length) ∧
      (¬HasEnd addr length →
        m.slice addr length = .error (.misuse (.extentOverflow addr length))) :=
  ⟨⟨SlicesExactly.hasEnd, slicesExactly_of_hasEnd m⟩, slice_of_not_hasEnd m⟩

/-- A slice of the greatest length that there is, from the second byte on, is not exact. -/
theorem not_slicesExactly_endless : ¬powerOn.SlicesExactly 1 0xFFFFFFFFFFFFFFFF := by
  intro h
  have hend : (1 : UInt16).toNat + 0xFFFFFFFFFFFFFFFF < 0x10000000000000000 := h.hasEnd
  revert hend
  decide

/-! ### Writings -/

/-- A request to put bytes into memory, a run of them or a single one. -/
inductive Writing where
  | run (addr : UInt16) (data : List UInt8)
  | byte (addr : UInt16) (value : UInt8)

namespace Writing

/-- The address of the first byte. -/
def addr : Writing → UInt16
  | .run addr _ | .byte addr _ => addr

/-- The bytes that are put there. -/
def data : Writing → List UInt8
  | .run _ data => data
  | .byte _ value => [value]

/-- A store of `n` bytes has all bytes that are to be replaced. -/
def Fits (w : Writing) (n : Nat) : Prop := w.addr.toNat + w.data.length ≤ n

instance (w : Writing) (n : Nat) : Decidable (w.Fits n) :=
  inferInstanceAs (Decidable (_ ≤ _))

/-- The byte at `k` is to be replaced. -/
def Covers (w : Writing) (k : Nat) : Prop :=
  w.addr.toNat ≤ k ∧ k < w.addr.toNat + w.data.length

instance (w : Writing) (k : Nat) : Decidable (w.Covers k) :=
  inferInstanceAs (Decidable (_ ∧ _))

end Writing

/-- The result of one writing, and memory after it; a writing that is refused leaves it alone. -/
def attempt (m : Memory n) (w : Writing) : Except Misuse (Except Fault Unit × Memory n) :=
  let written :=
    match w with
    | .run addr data => m.write addr data
    | .byte addr value => m.writeByte addr value
  match written with
  | .error (.misuse u) => .error u
  | .error (.fault f) => .ok (.error f, m)
  | .ok m => .ok (.ok (), m)

/-- What some writings gave, one result each, and memory after the last of them. -/
structure Writings (n : Nat) where
  results : List (Except Fault Unit)
  memory : Memory n

/-- Carry out writings one after the other, whatever their results. -/
def writeAll (m : Memory n) : List Writing → Except Misuse (Writings n)
  | [] => .ok ⟨[], m⟩
  | w :: rest =>
    match m.attempt w with
    | .error u => .error u
    | .ok (result, after) =>
      match after.writeAll rest with
      | .error u => .error u
      | .ok later => .ok ⟨result :: later.results, later.memory⟩

/-- Memory after a writing: as before, if it does not fit. -/
def after (m : Memory n) (w : Writing) : Memory n :=
  if w.Fits n then m.put w.addr w.data else m

/-- The result of a writing on a store of `n` bytes. -/
def Writing.result (w : Writing) (n : Nat) : Except Fault Unit :=
  if w.Fits n then .ok () else .error (missing n w.addr)

/-- A writing does what its numbers say. -/
theorem attempt_eq (m : Memory n) {w : Writing} (h : HasEnd w.addr w.data.length) :
    m.attempt w = .ok (w.result n, m.after w) := by
  have hwrite : m.write w.addr w.data =
      if w.Fits n then .ok (m.put w.addr w.data) else .error (.fault (missing n w.addr)) := by
    rw [write_eq h]
    by_cases hf : w.Fits n
    · rw [if_pos hf, if_neg (Nat.not_lt.mpr hf)]
    · rw [if_neg hf, if_pos (Nat.lt_of_not_le hf)]
  have hsame : m.attempt w =
      match m.write w.addr w.data with
      | .error (.misuse u) => .error u
      | .error (.fault f) => .ok (.error f, m)
      | .ok m => .ok (.ok (), m) := by
    cases w with
    | run _ _ => rfl
    | byte _ _ => rfl
  rw [hsame, hwrite, Writing.result, after]
  by_cases hf : w.Fits n
  · simp only [if_pos hf]
  · simp only [if_neg hf]

/-- Writings one after the other do what their numbers say. -/
theorem writeAll_eq (m : Memory n) {ws : List Writing}
    (h : ∀ w ∈ ws, HasEnd w.addr w.data.length) :
    m.writeAll ws = .ok ⟨ws.map (Writing.result · n), ws.foldl after m⟩ := by
  induction ws generalizing m with
  | nil => rfl
  | cons w ws ih =>
    have hfirst := attempt_eq m (h w List.mem_cons_self)
    have hrest := ih (m.after w) fun w' hw ↦ h w' (List.mem_cons_of_mem w hw)
    simp only [writeAll, hfirst, hrest]
    rfl

/-! ### The bytes afterwards -/

/-- A run of bytes that fits is found where it was put, between the bytes that were there before. -/
theorem getElem?_put (m : Memory n) {addr : UInt16} {data : List UInt8}
    (h : addr.toNat + data.length ≤ n) (k : Nat) :
    (m.put addr data).cells[k]? =
      if addr.toNat ≤ k ∧ k < addr.toNat + data.length then data[k - addr.toNat]?
      else m.cells[k]? := by
  split
  · next hk =>
    have hn : k < n := by omega
    have hlen : k - addr.toNat < data.length := by omega
    rw [put, Vector.getElem?_eq_getElem hn, getElem_overwrite, if_pos hk.1,
      List.getD_eq_getElem?_getD, List.getElem?_eq_getElem hlen, Option.getD_some]
  · next hk =>
    apply getElem?_overwrite_of_outside
    omega

/-- A run of bytes that fits is read as it was put there. -/
theorem window_put {m : Memory n} {addr : UInt16} {data : List UInt8}
    (h : addr.toNat + data.length ≤ n) : (m.put addr data).window addr data.length = data :=
  take_drop_overwrite h

/-- Putting bytes where they are changes nothing. -/
theorem put_window (m : Memory n) (addr : UInt16) (length : Nat) :
    m.put addr (m.window addr length) = m := by
  rw [put, window, overwrite_take_drop]

/-- Windows on the same bytes are equal. -/
theorem window_congr {m m' : Memory n} {addr : UInt16} {length : Nat}
    (h : ∀ k < length, m'.cells[addr.toNat + k]? = m.cells[addr.toNat + k]?) :
    m'.window addr length = m.window addr length := by
  apply eq_window (List.length_take_le _ _)
  intro k hk
  exact (getElem?_window hk).trans (h k hk)

/-- A writing that fits decides the bytes that it covers. -/
theorem getElem?_after_of_covers (m : Memory n) {w : Writing} {k : Nat} (hf : w.Fits n)
    (hk : w.Covers k) : (m.after w).cells[k]? = w.data[k - w.addr.toNat]? := by
  have hwithin : w.addr.toNat ≤ k ∧ k < w.addr.toNat + w.data.length := hk
  rw [after, if_pos hf, getElem?_put m hf, if_pos hwithin]

/-- A writing leaves the bytes that it does not cover alone, or all bytes if it does not fit. -/
theorem getElem?_after_of_not_covers (m : Memory n) {w : Writing} {k : Nat}
    (h : w.Fits n → ¬w.Covers k) : (m.after w).cells[k]? = m.cells[k]? := by
  unfold after
  split
  · next hf =>
    have hout : ¬(w.addr.toNat ≤ k ∧ k < w.addr.toNat + w.data.length) := h hf
    rw [getElem?_put m hf, if_neg hout]
  · rfl

/-- A byte stays through writings that do not cover it. -/
theorem getElem?_foldl_after (m : Memory n) {ws : List Writing} {k : Nat}
    (h : ∀ w ∈ ws, w.Fits n → ¬w.Covers k) : (ws.foldl after m).cells[k]? = m.cells[k]? := by
  induction ws generalizing m with
  | nil => rfl
  | cons w ws ih =>
    rw [List.foldl_cons, ih (m.after w) fun w' hw ↦ h w' (List.mem_cons_of_mem w hw)]
    exact getElem?_after_of_not_covers m (h w List.mem_cons_self)

/-- After some writings every byte is the one that the latest writing to cover it put there, of
those that fitted, or the one that was there before them. -/
structure Remembers (m last : Memory n) (ws : List Writing) : Prop where
  latest : ∀ front w back k, ws = front ++ w :: back → w.Fits n → w.Covers k →
    (∀ w' ∈ back, w'.Fits n → ¬w'.Covers k) → last.cells[k]? = w.data[k - w.addr.toNat]?
  initial : ∀ k, (∀ w ∈ ws, w.Fits n → ¬w.Covers k) → last.cells[k]? = m.cells[k]?

/-- Memory remembers what was put into it. -/
theorem remembers_foldl_after (m : Memory n) (ws : List Writing) :
    m.Remembers (ws.foldl after m) ws where
  latest := by
    rintro front w back k rfl hf hk hback
    rw [List.foldl_append, List.foldl_cons, getElem?_foldl_after _ hback]
    exact getElem?_after_of_covers _ hf hk
  initial _ h := getElem?_foldl_after m h

/-- Bytes, words and slices are all read from the same cells. A word behind the last address of 16
bits has a low byte that no address reaches. -/
structure ReadsAlike (m : Memory n) : Prop where
  byte : ∀ addr b, m.readByte addr = .ok b ↔ m.cells[addr.toNat]? = some b
  noByte : ∀ addr, n ≤ addr.toNat → m.readByte addr = .error (.outOfBounds (max addr.toNat n))
  word : ∀ addr, addr.toNat + 1 < n → ∃ word high low, m.readWord addr = .ok word ∧
    m.readByte addr = .ok high ∧ m.cells[addr.toNat + 1]? = some low ∧
    (∀ next : UInt16, next.toNat = addr.toNat + 1 → m.readByte next = .ok low) ∧
    word.toNat = 256 * high.toNat + low.toNat
  noWord : ∀ addr, n ≤ addr.toNat + 1 →
    m.readWord addr = .error (.outOfBounds (max addr.toNat n))
  slice : ∀ addr length, HasEnd addr length → m.SlicesExactly addr length

/-- A byte is read if it is there. -/
theorem readByte_eq_ok_iff {m : Memory n} {addr : UInt16} {b : UInt8} :
    m.readByte addr = .ok b ↔ m.cells[addr.toNat]? = some b := by
  unfold readByte
  split
  · next h => rw [Vector.getElem?_eq_getElem h, Except.ok.injEq, Option.some.injEq]
  · next h =>
    rw [Vector.getElem?_eq_none (by omega)]
    simp

/-- All memory is read alike. -/
theorem readsAlike (m : Memory n) : m.ReadsAlike where
  byte _ _ := readByte_eq_ok_iff
  noByte addr h := by
    rw [readByte, dif_neg (by omega)]
    rfl
  word addr h := by
    have hhigh : m.cells[addr.toNat]? = some m.cells[addr.toNat] := Vector.getElem?_eq_getElem _
    have hlow : m.cells[addr.toNat + 1]? = some m.cells[addr.toNat + 1] :=
      Vector.getElem?_eq_getElem _
    refine ⟨bigEndian m.cells[addr.toNat] m.cells[addr.toNat + 1], _, _, ?_,
      readByte_eq_ok_iff.mpr hhigh, hlow, ?_, toNat_bigEndian _ _⟩
    · rw [readWord, dif_pos (by omega)]
    · intro next hnext
      rw [readByte_eq_ok_iff, hnext]
      exact hlow
  noWord addr h := by
    rw [readWord, dif_neg (by omega)]
    rfl
  slice _ _ h := slicesExactly_of_hasEnd m h

/-- Writings succeed exactly if they fit, are refused at the first byte that does not exist, and
then change nothing. Memory remembers those that succeed, and every way of reading tells what it
remembers. -/
theorem writeAll_remembers (m : Memory n) {ws : List Writing}
    (h : ∀ w ∈ ws, HasEnd w.addr w.data.length) :
    ∃ record, m.writeAll ws = .ok record ∧
      (record.results = ws.map fun w ↦
        if w.addr.toNat + w.data.length ≤ n then .ok ()
        else .error (.outOfBounds (max w.addr.toNat n))) ∧
      (∀ front w back, ws = front ++ w :: back → ¬w.Fits n →
        ∃ before after, m.writeAll front = .ok before ∧
          m.writeAll (front ++ [w]) = .ok after ∧ after.memory = before.memory) ∧
      m.Remembers record.memory ws ∧ record.memory.ReadsAlike := by
  refine ⟨_, writeAll_eq m h, rfl, ?_, remembers_foldl_after m ws, readsAlike _⟩
  rintro front w back rfl hf
  refine ⟨_, _, writeAll_eq m fun w' hw ↦ h w' ?_, writeAll_eq m fun w' hw ↦ h w' ?_, ?_⟩
  · exact List.mem_append_left _ hw
  · rw [← List.singleton_append, ← List.append_assoc]
    exact List.mem_append_left _ hw
  · simp only [List.foldl_append, List.foldl_cons, List.foldl_nil]
    rw [after, if_neg hf]

/-- Writings into a store of four bytes: two that overlap, an empty one just past the end, one that
is too long for its place, an empty one further out, and one at the last address of all. -/
def overlapping : List Writing :=
  [.run 0 [1, 2, 3], .byte 1 9, .run 4 [], .run 2 [7, 7, 7], .run 5 [], .byte 0xFFFF 8]

/-- Of the overlapping writings the first three succeed, and the second is the latest to cover the
byte it writes. -/
theorem writeAll_remembers_overlapping :
    (∀ w ∈ overlapping, HasEnd w.addr w.data.length) ∧
      ∃ record, (zero 4).writeAll overlapping = .ok record ∧
        record.results = [.ok (), .ok (), .ok (), .error (.outOfBounds 4),
          .error (.outOfBounds 5), .error (.outOfBounds 0xFFFF)] ∧
        record.memory.readByte 1 = .ok 9 ∧ record.memory.readByte 2 = .ok 3 ∧
        record.memory.readByte 3 = .ok 0 := by
  have hend : ∀ w ∈ overlapping, HasEnd w.addr w.data.length := by
    intro w hw
    apply hasEnd_of_le
    revert w
    decide
  obtain ⟨record, hrun, hresults, -, hremembers, hreads⟩ := writeAll_remembers (zero 4) hend
  refine ⟨hend, record, hrun, ?_, ?_, ?_, ?_⟩
  · rw [hresults]
    rfl
  · apply (hreads.byte 1 9).mpr
    exact hremembers.latest [.run 0 [1, 2, 3]] (.byte 1 9) _ 1 rfl (by decide) (by decide)
      (by decide)
  · apply (hreads.byte 2 3).mpr
    exact hremembers.latest [] (.run 0 [1, 2, 3]) _ 2 rfl (by decide) (by decide) (by decide)
  · apply (hreads.byte 3 0).mpr
    exact hremembers.initial 3 (by decide)

end Chip8.Memory
