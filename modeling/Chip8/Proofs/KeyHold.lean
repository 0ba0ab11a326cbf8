import Mathlib.Data.List.Induction
import Chip8.Terminal.Keyboard

/-!
# Held keys

A key of the pad is down in a scan exactly if a character that stands for it was read in that scan
or in one of the five before it, however these ended. What carries this over the scans is the number
of them that a key is still held for: it is more than `t` exactly if the key was pressed in one of
the last `6 - t` scans.
-/

namespace Chip8.Terminal

/-! ### What a scan reads -/

/-- A scan reads on behind an arrival: it is no failure and does not quit. -/
def passes : Except String Arrival → Bool
  | .ok (.key e) => !e.isQuit
  | .ok .other => true
  | .error _ => false

/-- What a scan processes of the arrivals it finds: all up to the first that ends it. -/
def processed (found : List (Except String Arrival)) : List (Except String Arrival) :=
  found.takeWhile passes

/-- An arrival is Escape, or the letter C in either case with the control key. -/
def Quits (a : Except String Arrival) : Prop :=
  ∃ e, a = .ok (.key e) ∧
    (e.code = .escape ∨ (e.code = .char 'c' ∨ e.code = .char 'C') ∧ e.control = true)

/-- An arrival is a character that stands for a key of the pad once it is in lower case. -/
def Presses (a : Except String Arrival) (key : Fin 16) : Prop :=
  ∃ e c, a = .ok (.key e) ∧ e.code = .char c ∧ (c.toLower, key) ∈ keymap

/-- A scan processes an arrival that presses a key. -/
def Pressed (found : List (Except String Arrival)) (key : Fin 16) : Prop :=
  ∃ a ∈ processed found, Presses a key

/-- A key event quits exactly if the keyboard takes it as a wish to quit. -/
theorem quits_key_iff {e : KeyEvent} : Quits (.ok (.key e)) ↔ e.isQuit = true := by
  obtain ⟨code, control⟩ := e
  cases code with
  | char c => simp [Quits, KeyEvent.isQuit]
  | escape => simp [Quits, KeyEvent.isQuit]
  | named => simp [Quits, KeyEvent.isQuit]

/-- A scan reads on behind what neither fails nor quits. -/
theorem passes_iff {a : Except String Arrival} : passes a = true ↔ a.isOk = true ∧ ¬Quits a := by
  match a with
  | .error text => simp [passes, Except.isOk, Except.toBool]
  | .ok .other => simp [passes, Except.isOk, Except.toBool, Quits]
  | .ok (.key e) => simp [passes, Except.isOk, Except.toBool, quits_key_iff]

/-- Every entry of the keymap is found under its character. -/
theorem lookup_keymap : ∀ entry ∈ keymap, keymap.lookup entry.1 = some entry.2 := by
  decide

/-- A character stands for the keys that the keymap has for it. -/
theorem keyOf?_eq_some_iff {c : Char} {key : Fin 16} :
    keyOf? c = some key ↔ (c.toLower, key) ∈ keymap := by
  constructor
  · intro h
    obtain ⟨front, back, hmap, -⟩ := List.lookup_eq_some_iff.mp h
    rw [hmap]
    exact List.mem_append_right front List.mem_cons_self
  · exact lookup_keymap (c.toLower, key)

/-- A key event presses a key if it is a character that stands for it. -/
theorem presses_key_iff {e : KeyEvent} {key : Fin 16} :
    Presses (.ok (.key e)) key ↔ ∃ c, e.code = .char c ∧ keyOf? c = some key := by
  simp [Presses, keyOf?_eq_some_iff]

/-- An arrival that is no key presses nothing. -/
theorem not_presses_other (key : Fin 16) : ¬Presses (.ok .other) key := by
  simp [Presses]

/-- An arrival that ends a scan has pressed nothing, and what is behind it has not either. -/
theorem not_pressed_of_not_passes {a : Except String Arrival} {rest : List (Except String Arrival)}
    (h : passes a = false) (key : Fin 16) : ¬Pressed (a :: rest) key := by
  simp [Pressed, processed, h]

/-- Behind an arrival that does not end it a scan goes on. -/
theorem pressed_cons_iff {a : Except String Arrival} {rest : List (Except String Arrival)}
    (h : passes a = true) {key : Fin 16} :
    Pressed (a :: rest) key ↔ Presses a key ∨ Pressed rest key := by
  simp [Pressed, processed, h]

namespace Keyboard

/-! ### One scan -/

/-- Time passes for every key alike. -/
theorem get_decay (held : Vector Nat 16) (key : Fin 16) :
    (decay held).get key = held.get key - 1 :=
  Vector.getElem_map _ _

/-- A key is down as long as it is held. -/
theorem get_keypad (held : Vector Nat 16) (key : Fin 16) :
    (keypad held).keys.get key = decide (0 < held.get key) :=
  Vector.getElem_map _ _

/-- Nothing is held at first. -/
theorem get_idle (key : Fin 16) : idle.held.get key = 0 := Vector.getElem_replicate _

/-- A character that stands for a key holds this key and no other. -/
theorem get_press {held : Vector Nat 16} {e : KeyEvent} {c : Char} {pressed : Fin 16}
    (hc : e.code = .char c) (hk : keyOf? c = some pressed) (key : Fin 16) :
    (press held e).1.get key = if pressed = key then keyHoldScans else held.get key := by
  simp only [press, hc, hk, ← Fin.val_inj]
  exact Vector.getElem_setIfInBounds key.isLt

/-- A press leaves its key to be held for all of its scans, and the other keys for as many as
before. -/
theorem lt_held_press {held : Vector Nat 16} {e : KeyEvent} {key : Fin 16} {t : Nat} :
    t < (press held e).1.get key ↔
      Presses (.ok (.key e)) key ∧ t < keyHoldScans ∨
        ¬Presses (.ok (.key e)) key ∧ t < held.get key := by
  rw [presses_key_iff]
  cases hc : e.code with
  | escape | named => simp [press, hc]
  | char c =>
    cases hk : keyOf? c with
    | none => simp [press, hc, hk]
    | some pressed =>
      rw [get_press hc hk]
      by_cases h : pressed = key
      · simp [hk, h]
      · simp [hk, h]

/-- A scan leaves the keys that its arrivals press to be held for all of their scans, and the other
keys for as many as before. -/
theorem lt_held_read {found : List (Except String Arrival)} {held : Vector Nat 16} {log : Log}
    {key : Fin 16} {t : Nat} :
    t < (read found held log).input.held.get key ↔
      Pressed found key ∧ t < keyHoldScans ∨ ¬Pressed found key ∧ t < held.get key := by
  induction found generalizing held log with
  | nil => simp [read, Pressed, processed]
  | cons a rest ih =>
    match a with
    | .error text =>
      have hnot : ¬Pressed (.error text :: rest) key := not_pressed_of_not_passes rfl key
      simp only [read, hnot, false_and, not_false_eq_true, true_and, false_or]
    | .ok .other =>
      rw [read, ih, pressed_cons_iff rfl]
      simp only [not_presses_other, false_or]
    | .ok (.key e) =>
      rw [read]
      cases hq : e.isQuit with
      | true =>
        have hnot : ¬Pressed (.ok (.key e) :: rest) key :=
          not_pressed_of_not_passes (by rw [passes, hq]; rfl) key
        simp only [if_true, hnot, false_and, not_false_eq_true, true_and, false_or]
      | false =>
        have hpasses : passes (.ok (.key e)) = true := by rw [passes, hq]; rfl
        simp only [Bool.false_eq_true, if_false, ih, lt_held_press, pressed_cons_iff hpasses]
        tauto

/-- What passes is read before what stands behind it. -/
theorem read_append {front rest : List (Except String Arrival)} {held : Vector Nat 16} {log : Log}
    (h : ∀ a ∈ front, passes a = true) :
    read (front ++ rest) held log =
      read rest (read front held log).input.held (read front held log).log := by
  induction front generalizing held log with
  | nil => rfl
  | cons a front ih =>
    have ih : ∀ (held : Vector Nat 16) (log : Log), read (front ++ rest) held log =
        read rest (read front held log).input.held (read front held log).log :=
      fun _ _ ↦ ih fun b hb ↦ h b (List.mem_cons_of_mem a hb)
    match a with
    | .error text => cases h (.error text) List.mem_cons_self
    | .ok .other => rw [List.cons_append, read, read, ih]
    | .ok (.key e) =>
      have hq : e.isQuit = false := by simpa [passes] using h (.ok (.key e)) List.mem_cons_self
      simp only [List.cons_append, read, hq, Bool.false_eq_true, if_false, ih]

/-- A scan that quits has done what a scan of the arrivals before that does, and leaves those behind
it unread. -/
theorem read_append_quit {front back : List (Except String Arrival)} {a : Except String Arrival}
    {held : Vector Nat 16} {log : Log} (h : ∀ b ∈ front, passes b = true) (ha : Quits a) :
    read (front ++ a :: back) held log =
      ⟨.ok none, ⟨(read front held log).input.held, back⟩, (read front held log).log⟩ := by
  obtain ⟨e, rfl, -⟩ := id ha
  rw [read_append h, read, if_pos (quits_key_iff.mp ha)]

/-- A scan answers that the user wants out exactly if something quits before anything fails. -/
theorem answer_read_eq_none_iff {found : List (Except String Arrival)} {held : Vector Nat 16}
    {log : Log} : (read found held log).answer = .ok none ↔
      ∃ a ∈ found.takeWhile Except.isOk, Quits a := by
  induction found generalizing held log with
  | nil => simp [read]
  | cons a rest ih =>
    match a with
    | .error text =>
      have hfail : Except.isOk (.error text : Except String Arrival) = false := rfl
      simp [read, hfail]
    | .ok .other =>
      have hok : Except.isOk (.ok .other : Except String Arrival) = true := rfl
      have hnot : ¬Quits (.ok .other) := by simp [Quits]
      simp [read, ih, hok, hnot]
    | .ok (.key e) =>
      have hok : Except.isOk (.ok (.key e) : Except String Arrival) = true := rfl
      simp only [read, List.takeWhile_cons, hok, if_true, List.mem_cons, exists_eq_or_imp,
        quits_key_iff]
      cases hq : e.isQuit with
      | true => simp
      | false => simp [ih]

/-- The keys that a scan answers are those that are held when it ends. -/
theorem keypad_of_answer_read {found : List (Except String Arrival)} {held : Vector Nat 16}
    {log : Log} {pad : Keypad} (h : (read found held log).answer = .ok (some pad)) :
    pad = keypad (read found held log).input.held := by
  induction found generalizing held log with
  | nil =>
    cases h
    rfl
  | cons a rest ih =>
    match a with
    | .error text => cases h
    | .ok .other => exact ih h
    | .ok (.key e) =>
      rw [read] at h ⊢
      cases hq : e.isQuit with
      | true =>
        rw [hq] at h
        cases h
      | false =>
        rw [hq] at h
        exact ih h

/-! ### Scans in a row -/

/-- A keyboard at which a scan finds something. -/
def finding (k : Keyboard) (found : List (Except String Arrival)) : Keyboard :=
  { k with unread := found }

/-- The keyboard after scans that each find something. What one of them left unread is found again
only if a later one finds it. -/
def scanAll (k : Keyboard) (finds : List (List (Except String Arrival))) : Keyboard :=
  finds.foldl (fun k found ↦ (k.finding found).scan.input) k

/-- The scan that finds something after other scans since nothing was held. -/
def scanAfter (earlier : List (List (Except String Arrival)))
    (found : List (Except String Arrival)) : Scan Keyboard :=
  ((idle.scanAll earlier).finding found).scan

/-- A key that is not pressed is held for one scan less. -/
theorem lt_held_scan {k : Keyboard} {found : List (Except String Arrival)} {key : Fin 16}
    {t : Nat} : t < (k.finding found).scan.input.held.get key ↔
      Pressed found key ∧ t < keyHoldScans ∨ ¬Pressed found key ∧ t + 1 < k.held.get key := by
  have hdecay : t < (decay k.held).get key ↔ t + 1 < k.held.get key := by
    rw [get_decay]
    omega
  rw [← hdecay]
  exact lt_held_read

/-- A key is held for more than `t` scans exactly if it was pressed in one of the last `6 - t`. -/
theorem lt_held_scanAll {finds : List (List (Except String Arrival))} {key : Fin 16} {t : Nat} :
    t < (idle.scanAll finds).held.get key ↔
      ∃ found ∈ finds.reverse.take (keyHoldScans - t), Pressed found key := by
  -- The last scan takes one off what the scans before it left, so that these count for `t + 1`.
  induction finds using List.reverseRecOn generalizing t with
  | nil => simp [scanAll, get_idle]
  | append_singleton finds found ih =>
    have hscan : idle.scanAll (finds ++ [found]) =
        ((idle.scanAll finds).finding found).scan.input := by
      rw [scanAll, List.foldl_append]
      rfl
    rw [hscan, lt_held_scan, ih, List.reverse_append]
    by_cases ht : t < keyHoldScans
    · have hsub : keyHoldScans - t = keyHoldScans - (t + 1) + 1 := by omega
      simp only [hsub, List.reverse_singleton, List.singleton_append, List.take_succ_cons,
        List.mem_cons, exists_eq_or_imp]
      tauto
    · have hsub : keyHoldScans - t = 0 := by omega
      have hsub' : keyHoldScans - (t + 1) = 0 := by omega
      simp [hsub, hsub', ht]

/-- In a scan that answers keys, those are down that were pressed in it or in one of the five scans
before it, whatever these answered. A scan answers that the user wants out exactly if something it
finds quits before anything fails, and does not process what stands behind that. -/
theorem scan_holds_recent_presses (earlier : List (List (Except String Arrival)))
    (found : List (Except String Arrival)) :
    (∀ pad, (scanAfter earlier found).answer = .ok (some pad) → ∀ key : Fin 16,
      (pad.keys.get key = true ↔ ∃ recent ∈ found :: earlier.reverse.take 5, Pressed recent key)) ∧
    ((scanAfter earlier found).answer = .ok none ↔
      ∃ a ∈ found.takeWhile Except.isOk, Quits a) ∧
    ∀ front a back, found = front ++ a :: back →
      (∀ b ∈ front, b.isOk = true ∧ ¬Quits b) → Quits a → scanAfter earlier found =
        ⟨.ok none, ⟨(scanAfter earlier front).input.held, back⟩,
          (scanAfter earlier front).log⟩ := by
  refine ⟨?_, answer_read_eq_none_iff, ?_⟩
  · intro pad hpad key
    have hheld : (scanAfter earlier found).input = idle.scanAll (earlier ++ [found]) := by
      rw [scanAll, List.foldl_append]
      rfl
    have hdown : pad.keys.get key = true ↔ 0 < (scanAfter earlier found).input.held.get key := by
      rw [keypad_of_answer_read hpad, get_keypad, decide_eq_true_iff]
      rfl
    rw [hdown, hheld, lt_held_scanAll, List.reverse_append]
    rfl
  · rintro front a back rfl hfront ha
    exact read_append_quit (fun b hb ↦ passes_iff.mpr (hfront b hb)) ha

/-- The sixth scan is the last in which a key that was pressed in the first is down. -/
example :
    let press : List (Except String Arrival) := [.ok (.key ⟨.char 'W', false⟩)]
    (scanAfter (press :: List.replicate 4 []) []).input.held.get 5 = 1 ∧
      (scanAfter (press :: List.replicate 5 []) []).input.held.get 5 = 0 := by
  decide +kernel

end Keyboard
end Chip8.Terminal
