import Chip8.Fault

/-!
# Call stack

Return addresses of the pending calls, at most sixteen. The slots above the pointer keep what
was last pushed there until a push or a clear overwrites it.
-/

namespace Chip8

/-- Sixteen slots for return addresses, the first `depth` of them in use. -/
structure CallStack where
  slots : Vector UInt16 16
  depth : Nat
  depth_le : depth ≤ 16
  deriving DecidableEq

namespace CallStack

/-- The number of calls that can be pending at once. -/
def capacity : Nat := 16

/-- A stack with no pending call and all slots zero. -/
def empty : CallStack := ⟨Vector.replicate 16 0, 0, by decide⟩

/-- Add a return address. -/
def push (s : CallStack) (addr : UInt16) : Except Fault CallStack :=
  if h : s.depth < 16 then .ok ⟨s.slots.set s.depth addr, s.depth + 1, h⟩
  else .error .stackOverflow

/-- Take the newest return address off. Its slot keeps the address. -/
def pop (s : CallStack) : Except Fault (UInt16 × CallStack) :=
  if h : 0 < s.depth then
    have hd : s.depth - 1 < 16 := by have := s.depth_le; omega
    .ok (s.slots[s.depth - 1], ⟨s.slots, s.depth - 1, Nat.le_of_lt hd⟩)
  else .error .stackUnderflow

/-- Forget all pending calls and wipe every slot. -/
def clear (_ : CallStack) : CallStack := empty

/-- The pending return addresses, oldest first. -/
def toList (s : CallStack) : List UInt16 := s.slots.toList.take s.depth

/-- No call is pending on the empty stack. -/
theorem toList_empty : empty.toList = [] := by simp [toList, empty]

/-- The depth counts the pending calls. -/
theorem length_toList (s : CallStack) : s.toList.length = s.depth := by
  have := s.depth_le
  simp [toList]
  omega

/-- A push appends its address. -/
theorem toList_push {s t : CallStack} {addr : UInt16} (h : s.push addr = .ok t) :
    t.toList = s.toList ++ [addr] := by
  unfold push at h
  split at h
  · next hd =>
    cases h
    apply List.ext_getElem
    · simp [toList]
      omega
    · intro i hi hj
      simp only [toList, List.getElem_append, List.getElem_take, Vector.getElem_toList,
        List.length_take, Vector.length_toList, Vector.getElem_set, List.getElem_singleton]
      simp only [toList, List.length_take, Vector.length_toList] at hi
      split <;> split
      · omega
      · rfl
      · rfl
      · omega
  · cases h

/-- A push fails exactly on a full stack. -/
theorem push_eq_error_iff {s : CallStack} {addr : UInt16} {f : Fault} :
    s.push addr = .error f ↔ s.depth = 16 ∧ f = .stackOverflow := by
  have := s.depth_le
  unfold push
  split
  · simp
    omega
  · simp [eq_comm]
    omega

/-- A pop takes the last address off. -/
theorem toList_pop {s t : CallStack} {addr : UInt16} (h : s.pop = .ok (addr, t)) :
    s.toList = t.toList ++ [addr] := by
  unfold pop at h
  split at h
  · next hd =>
    cases h
    have := s.depth_le
    have hl : s.depth - 1 < s.slots.toList.length := by simp; omega
    have he := List.take_add_one (l := s.slots.toList) (i := s.depth - 1)
    rw [Nat.sub_add_cancel hd, List.getElem?_eq_getElem hl] at he
    simpa [toList] using he
  · cases h

/-- A pop fails exactly on a stack without pending calls. -/
theorem pop_eq_error_iff {s : CallStack} {f : Fault} :
    s.pop = .error f ↔ s.depth = 0 ∧ f = .stackUnderflow := by
  unfold pop
  split
  · simp
    omega
  · simp [eq_comm]
    omega

end CallStack
end Chip8
