/-!
# Runs of bytes in a fixed store

A run of cells is read and written only with a proof that all of it lies in the store. Where that
is known the result is told without it: what is read is a part of the list of cells, and writing is
overwriting, which changes the cells of the run that lie in the store and nothing else.
-/

namespace Chip8

variable {n : Nat}

/-- The bytes of the `length` cells from `start` on. -/
def readCells (cells : Vector UInt8 n) (start length : Nat) (within : start + length ≤ n) :
    List UInt8 :=
  List.ofFn fun i : Fin length =>
    cells.get ⟨start + i, Nat.lt_of_lt_of_le (Nat.add_lt_add_left i.isLt start) within⟩

/-- The first cell of a run lies in the store. -/
theorem lt_of_run {start : Nat} {b : UInt8} {rest : List UInt8}
    (within : start + (b :: rest).length ≤ n) : start < n :=
  Nat.lt_of_lt_of_le (Nat.lt_add_of_pos_right (Nat.succ_pos rest.length)) within

/-- The cells behind the first one of a run lie in the store. -/
theorem le_of_run {start : Nat} {b : UInt8} {rest : List UInt8}
    (within : start + (b :: rest).length ≤ n) : start + 1 + rest.length ≤ n := by
  rw [Nat.add_right_comm]
  exact within

/-- Put `data` into the cells from `start` on. -/
def writeCells (cells : Vector UInt8 n) (start : Nat) :
    (data : List UInt8) → start + data.length ≤ n → Vector UInt8 n
  | [], _ => cells
  | b :: rest, within =>
    writeCells (cells.set start b (lt_of_run within)) (start + 1) rest (le_of_run within)

/-- Put `value` into every cell. The cells are gone through as a list, since that can be evaluated
in a proof. -/
def fillCells (cells : Vector UInt8 n) (value : UInt8) : Vector UInt8 n :=
  ⟨(cells.toList.map fun _ => value).toArray, by
    rw [List.size_toArray, List.length_map, Vector.length_toList]⟩

/-- Put `data` into consecutive cells from `start` on; cells beyond the store are skipped. -/
def overwrite (cells : Vector UInt8 n) (start : Nat) : List UInt8 → Vector UInt8 n
  | [] => cells
  | b :: rest => overwrite (cells.setIfInBounds start b) (start + 1) rest

/-- The bytes of a run are a part of the list of cells. -/
theorem readCells_eq (cells : Vector UInt8 n) {start length : Nat} (within : start + length ≤ n) :
    readCells cells start length within = (cells.toList.drop start).take length := by
  have hlength : ((cells.toList.drop start).take length).length = length := by
    rw [List.length_take, List.length_drop, Vector.length_toList]
    omega
  apply List.ext_getElem
  · rw [readCells, List.length_ofFn, hlength]
  · intro i hi _
    rw [readCells, List.length_ofFn] at hi
    simp only [readCells, List.getElem_ofFn, List.getElem_take, List.getElem_drop,
      Vector.getElem_toList]
    rfl

/-- A cell that lies in the store is set alike with the proof of its bound and without. -/
theorem set_eq_setIfInBounds (cells : Vector UInt8 n) {i : Nat} (b : UInt8) (h : i < n) :
    cells.set i b h = cells.setIfInBounds i b := by
  apply Vector.ext
  intro j hj
  rw [Vector.getElem_set, Vector.getElem_setIfInBounds]

/-- Writing a run that lies in the store is overwriting. -/
theorem writeCells_eq {start : Nat} {data : List UInt8} (cells : Vector UInt8 n)
    (within : start + data.length ≤ n) :
    writeCells cells start data within = overwrite cells start data := by
  induction data generalizing cells start with
  | nil => rfl
  | cons b rest ih => rw [writeCells, overwrite, ih, set_eq_setIfInBounds]

/-- After a fill nothing is left of what the cells held. -/
theorem fillCells_eq (cells : Vector UInt8 n) (value : UInt8) :
    fillCells cells value = Vector.replicate n value := by
  apply Vector.toList_inj.mp
  calc (fillCells cells value).toList
    _ = cells.toList.map fun _ => value := rfl
    _ = List.replicate n value := by rw [List.map_const', Vector.length_toList]
    _ = (Vector.replicate n value).toList := Vector.toList_replicate.symm

/-- A cell of the run holds the byte put there, any other its old byte. -/
theorem getElem_overwrite (cells : Vector UInt8 n) (start : Nat) (data : List UInt8)
    (i : Nat) (hi : i < n) :
    (overwrite cells start data)[i] =
      if start ≤ i then data.getD (i - start) cells[i] else cells[i] := by
  induction data generalizing cells start with
  | nil => simp [overwrite]
  | cons b rest ih =>
    rw [overwrite, ih, Vector.getElem_setIfInBounds hi]
    by_cases h : start = i
    · subst h
      simp [show ¬ start + 1 ≤ start by omega]
    · by_cases hs : start + 1 ≤ i
      · have he : i - start = (i - (start + 1)) + 1 := by omega
        simp [h, hs, show start ≤ i by omega, he]
      · simp [h, hs, show ¬ start ≤ i by omega]

/-- A cell outside the run keeps its byte. -/
theorem getElem?_overwrite_of_outside {cells : Vector UInt8 n} {start : Nat}
    {data : List UInt8} {i : Nat} (h : i < start ∨ start + data.length ≤ i) :
    (overwrite cells start data)[i]? = cells[i]? := by
  by_cases hi : i < n
  · rw [Vector.getElem?_eq_getElem hi, Vector.getElem?_eq_getElem hi, getElem_overwrite]
    split
    · next hs =>
      rw [List.getD_eq_getElem?_getD, List.getElem?_eq_none (by omega), Option.getD_none]
    · rfl
  · have hn : n ≤ i := Nat.le_of_not_lt hi
    rw [Vector.getElem?_eq_none hn, Vector.getElem?_eq_none hn]

/-- The bytes of a run replace as many old ones, and those around it stay. -/
theorem toList_overwrite {start : Nat} {cells : Vector UInt8 n}
    {before old after data : List UInt8} (h : cells.toList = before ++ old ++ after)
    (hs : before.length = start) (hl : old.length = data.length) :
    (overwrite cells start data).toList = before ++ data ++ after := by
  induction data generalizing cells start before old with
  | nil =>
    rw [List.eq_nil_of_length_eq_zero hl] at h
    exact h
  | cons b rest ih =>
    cases old with
    | nil => cases hl
    | cons a old =>
      have hset : (cells.setIfInBounds start b).toList = (before ++ [b]) ++ old ++ after := by
        rw [Vector.toList_setIfInBounds, h, ← hs]
        simp
      rw [overwrite, ih hset (by rw [List.length_append, hs]; rfl) (Nat.succ.inj hl)]
      simp

/-- A run of bytes that lies in the store reads back as it was put there. -/
theorem take_drop_overwrite {start : Nat} {cells : Vector UInt8 n} {data : List UInt8}
    (h : start + data.length ≤ n) :
    ((overwrite cells start data).toList.drop start).take data.length = data := by
  have hl : cells.toList.length = n := Vector.length_toList
  have hsplit : cells.toList = cells.toList.take start ++
      (cells.toList.drop start).take data.length ++ (cells.toList.drop start).drop data.length := by
    rw [List.append_assoc, List.take_append_drop, List.take_append_drop]
  have hstart : (cells.toList.take start).length = start := by
    rw [List.length_take]
    omega
  have hold : ((cells.toList.drop start).take data.length).length = data.length := by
    rw [List.length_take, List.length_drop]
    omega
  rw [toList_overwrite hsplit hstart hold, List.append_assoc, List.drop_left' hstart,
    List.take_left]

/-- Putting back the bytes that lie there changes nothing. -/
theorem overwrite_take_drop (cells : Vector UInt8 n) (start length : Nat) :
    overwrite cells start ((cells.toList.drop start).take length) = cells := by
  apply Vector.ext
  intro i hi
  rw [getElem_overwrite]
  split
  · next hs =>
    rw [List.getD_eq_getElem?_getD, List.getElem?_take, List.getElem?_drop, Nat.add_sub_cancel' hs]
    split
    · rw [Vector.getElem?_toList, Vector.getElem?_eq_getElem hi, Option.getD_some]
    · rfl
  · rfl

end Chip8
