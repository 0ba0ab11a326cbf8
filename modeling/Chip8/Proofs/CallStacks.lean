import Chip8.Proofs.Effect

/-!
# Call stacks as lists

A call stack answers any sequence of requests as a list of at most sixteen addresses does. What is
left in the slots above its pointer has no part in the answers, and a stack that has been cleared
has nothing left there. A request that fails changes no slot, in a machine as well.
-/

namespace Chip8.CallStack

/-- A request to a call stack. -/
inductive Request where
  /-- Add a return address. -/
  | push (addr : UInt16)
  /-- Take the newest return address off. -/
  | pop
  /-- Forget all return addresses. -/
  | clear

/-- What a request to a stack of type `σ` gives: its answer, which for a pop is the address, and
the stack after it. -/
structure Reply (σ : Type) where
  answer : Except Fault (Option UInt16)
  after : σ

/-- A reply with the stack after it seen in another way. -/
def Reply.map {σ τ : Type} (view : σ → τ) (r : Reply σ) : Reply τ := ⟨r.answer, view r.after⟩

/-- What a request gives. The stack stays if the request fails. -/
def obey (s : CallStack) : Request → Reply CallStack
  | .push addr =>
    match s.push addr with
    | .error f => ⟨.error f, s⟩
    | .ok t => ⟨.ok none, t⟩
  | .pop =>
    match s.pop with
    | .error f => ⟨.error f, s⟩
    | .ok (addr, t) => ⟨.ok (some addr), t⟩
  | .clear => ⟨.ok none, s.clear⟩

/-- What a request gives to a list of at most sixteen addresses, the newest of which is the last. -/
def obeyList (held : List UInt16) : Request → Reply (List UInt16)
  | .push addr =>
    if held.length < capacity then ⟨.ok none, held ++ [addr]⟩ else ⟨.error .stackOverflow, held⟩
  | .pop =>
    match held.getLast? with
    | none => ⟨.error .stackUnderflow, held⟩
    | some addr => ⟨.ok (some addr), held.dropLast⟩
  | .clear => ⟨.ok none, []⟩

/-- What requests give, one after the other, whatever the answers. -/
def replies {σ : Type} (obey : σ → Request → Reply σ) (s : σ) : List Request → List (Reply σ)
  | [] => []
  | r :: requests => obey s r :: replies obey (obey s r).after requests

/-- The answers to requests, each with the depth of the stack after it. -/
def answers (s : CallStack) (requests : List Request) : List (Except Fault (Option UInt16) × Nat) :=
  (replies obey s requests).map fun r ↦ (r.answer, r.after.depth)

/-- The answers of a list, each with the length of the list after it. -/
def answersOfList (held : List UInt16) (requests : List Request) :
    List (Except Fault (Option UInt16) × Nat) :=
  (replies obeyList held requests).map fun r ↦ (r.answer, r.after.length)

/-! ### A stack and its list -/

/-- A view that suits every request suits all of them after each other. -/
theorem map_replies {σ τ : Type} {obey : σ → Request → Reply σ} {obey' : τ → Request → Reply τ}
    {view : σ → τ} (suits : ∀ s r, (obey s r).map view = obey' (view s) r) (s : σ)
    (requests : List Request) :
    (replies obey s requests).map (Reply.map view) = replies obey' (view s) requests := by
  induction requests generalizing s with
  | nil => rfl
  | cons r requests ih =>
    have hafter : view (obey s r).after = (obey' (view s) r).after :=
      congrArg Reply.after (suits s r)
    rw [replies, List.map_cons, ih, suits, hafter, replies]

/-- The list of a stack gives what the stack gives. -/
theorem map_obey (s : CallStack) (r : Request) :
    (s.obey r).map toList = obeyList s.toList r := by
  cases r with
  | push addr =>
    cases hp : s.push addr with
    | error f =>
      obtain ⟨hd, rfl⟩ := push_eq_error_iff.mp hp
      have hfull : ¬ s.toList.length < capacity := by
        rw [length_toList, hd]
        exact Nat.lt_irrefl 16
      simp only [obey, hp, obeyList, if_neg hfull, Reply.map]
    | ok t =>
      have hd : s.depth ≠ 16 := by
        intro hd
        rw [push_eq_error_iff.mpr ⟨hd, rfl⟩] at hp
        cases hp
      have hroom : s.toList.length < capacity := by
        rw [length_toList]
        exact Nat.lt_of_le_of_ne s.depth_le hd
      simp only [obey, hp, obeyList, if_pos hroom, Reply.map, toList_push hp]
  | pop =>
    cases hp : s.pop with
    | error f =>
      obtain ⟨hd, rfl⟩ := pop_eq_error_iff.mp hp
      have hnil : s.toList = [] := by rw [← List.length_eq_zero_iff, length_toList, hd]
      simp only [obey, hp, obeyList, hnil, List.getLast?_nil, Reply.map]
    | ok popped =>
      simp only [obey, hp, obeyList, toList_pop hp, List.getLast?_concat, List.dropLast_concat,
        Reply.map]
  | clear => simp only [obey, obeyList, clear, Reply.map, toList_empty]

/-- No request makes the list longer than the capacity. -/
theorem length_obeyList_le {held : List UInt16} (h : held.length ≤ capacity) (r : Request) :
    (obeyList held r).after.length ≤ capacity := by
  unfold obeyList
  cases r with
  | push addr =>
    simp only
    split
    · next hlt =>
      rw [List.length_append]
      exact hlt
    · exact h
  | pop =>
    simp only
    split
    · exact h
    · rw [List.length_dropLast]
      exact Nat.le_trans (Nat.sub_le _ 1) h
  | clear => exact Nat.zero_le _

/-- No number of requests makes the list longer than the capacity. -/
theorem length_replies_le {held : List UInt16} (h : held.length ≤ capacity)
    (requests : List Request) :
    ∀ reply ∈ replies obeyList held requests, reply.after.length ≤ capacity := by
  induction requests generalizing held with
  | nil => simp [replies]
  | cons r requests ih =>
    have hr := length_obeyList_le h r
    rw [replies, List.forall_mem_cons]
    exact ⟨hr, ih hr⟩

/-- A stack answers as its list does, and is as deep as that is long. -/
theorem answers_eq (s : CallStack) (requests : List Request) :
    s.answers requests = answersOfList s.toList requests := by
  rw [answers, answersOfList, ← map_replies map_obey, List.map_map]
  apply List.map_congr_left
  intro r _
  change _ = (r.answer, r.after.toList.length)
  rw [length_toList]

/-- The slots below the pointer make the list. -/
theorem toList_eq_of_live {s t : CallStack} (hd : s.depth = t.depth)
    (hs : ∀ i < s.depth, s.slots[i]? = t.slots[i]?) : s.toList = t.toList := by
  apply List.ext_getElem?
  intro i
  simp only [toList, List.getElem?_take, ← hd, Vector.getElem?_toList]
  split
  · next hi => exact hs i hi
  · rfl

/-! ### Requests that fail -/

/-- A request that fails leaves every slot as it was, also those above the pointer. -/
theorem after_obey_of_error {s : CallStack} {r : Request} {f : Fault}
    (h : (s.obey r).answer = .error f) : (s.obey r).after = s := by
  cases r with
  | push addr =>
    cases hp : s.push addr with
    | error _ => simp only [obey, hp]
    | ok _ =>
      simp only [obey, hp] at h
      cases h
  | pop =>
    cases hp : s.pop with
    | error _ => simp only [obey, hp]
    | ok _ =>
      simp only [obey, hp] at h
      cases h
  | clear => cases h

/-- A request to the stack of a machine, in its place. -/
def Request.carryOut {ρ : Type} : Request → Work ρ (Option UInt16)
  | .push addr => do
    Work.push addr
    return none
  | .pop => do
    let addr ← Work.pop
    return some addr
  | .clear => do
    modify fun m => { m with stack := m.stack.clear }
    return none

/-- The stack of a machine does in its place what it does alone, and nothing else happens to the
machine. -/
theorem Request.run_carryOut {ρ : Type} (m : Machine ρ) (r : Request) :
    r.carryOut.run m =
      match (m.stack.obey r).answer with
      | .error f => .error (.fault f) m
      | .ok a => .ok a { m with stack := (m.stack.obey r).after } := by
  cases r with
  | push addr =>
    simp only [carryOut, EStateM.run_bind, Work.run_push, obey]
    cases m.stack.push addr <;> rfl
  | pop =>
    simp only [carryOut, EStateM.run_bind, Work.run_pop, obey]
    cases m.stack.pop <;> rfl
  | clear => rfl

/-- A machine is left alone by a request to its stack that fails. -/
theorem Request.eq_of_run_carryOut {ρ : Type} {m m' : Machine ρ} {r : Request} {e : Trap}
    (h : r.carryOut.run m = .error e m') : m' = m := by
  rw [run_carryOut] at h
  split at h
  · cases h
    rfl
  · cases h

/-! ### All of it -/

/-- A new stack answers any requests as a list of at most sixteen addresses does. A request that
fails changes nothing, in its place in a machine neither. Stacks that differ above their pointers
only answer alike, and a stack that has been cleared is a new one, slot by slot. -/
theorem refines_boundedList :
    (∀ requests, empty.answers requests = answersOfList [] requests ∧
      ∀ reply ∈ replies obeyList [] requests, reply.after.length ≤ 16) ∧
    (∀ (s : CallStack) (r : Request) (f : Fault),
      (s.obey r).answer = .error f → (s.obey r).after = s) ∧
    (∀ (ρ : Type) (m m' : Machine ρ) (r : Request) (e : Trap),
      r.carryOut.run m = .error e m' → m' = m) ∧
    (∀ s t : CallStack, s.depth = t.depth → (∀ i < s.depth, s.slots[i]? = t.slots[i]?) →
      ∀ requests, s.answers requests = t.answers requests) ∧
    ∀ s : CallStack, (s.obey .clear).after = empty := by
  refine ⟨?_, fun s r f ↦ after_obey_of_error, fun ρ m m' r e ↦ Request.eq_of_run_carryOut, ?_,
    fun s ↦ rfl⟩
  · intro requests
    refine ⟨?_, length_replies_le (Nat.zero_le _) requests⟩
    rw [answers_eq, toList_empty]
  · intro s t hd hs requests
    rw [answers_eq, answers_eq, toList_eq_of_live hd hs]

/-- A stack with one pending call. -/
def oneCall : CallStack := ⟨(Vector.replicate 16 0).set 0 0x202, 1, by decide⟩

/-- A stack with one pending call after another call that has returned. -/
def afterReturn : CallStack := ⟨oneCall.slots.set 1 0x30A, 1, by decide⟩

/-- The address of a call that has returned shows in no answer of the stack. -/
theorem refines_boundedList_staleSlot :
    oneCall ≠ afterReturn ∧
      oneCall.answers [.pop, .pop, .push 0x400, .push 0x500, .pop] =
        afterReturn.answers [.pop, .pop, .push 0x400, .push 0x500, .pop] ∧
      (afterReturn.obey .clear).after = empty := by
  refine ⟨by decide, ?_, refines_boundedList.2.2.2.2 afterReturn⟩
  exact refines_boundedList.2.2.2.1 oneCall afterReturn rfl (by decide) _

end Chip8.CallStack
