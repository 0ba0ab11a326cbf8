import Chip8.Host.Run
import Chip8.Proofs.Frames

/-!
# Runs, frame by frame

A run is a number of frames that are played to their end, and then the limit or a frame that ends
it. Every host has such a sequence of frames under every limit, with the actions in it, and more
room does not change a sequence that has ended before its limit.
-/

namespace Chip8

namespace Input

variable {ι : Type} [Input ι]

/-- An input after so many scans. -/
def after (input : ι) : Nat → ι
  | 0 => input
  | k + 1 => after (scan input).input k

/-- Some scan gives no keys: the user wants out, or it fails. -/
def Ends (input : ι) : Prop :=
  ∃ k, ∀ keypad, (scan (after input k)).answer ≠ .ok (some keypad)

end Input

namespace Host

variable {ρ ι δ β : Type} [RandomSource ρ] [Input ι] [Display δ] [Buzzer β]

/-! ### Frames in a row -/

/-- So many frames are played one after the other, and the actions and events in them. -/
inductive Plays : Nat → Host ρ ι δ β → List Action → Log → Host ρ ι δ β → Prop where
  /-- No frame. -/
  | none {h : Host ρ ι δ β} : Plays 0 h [] #[] h
  /-- A frame, and then the rest. -/
  | frame {n : Nat} {h h' : Host ρ ι δ β} {actions rest : List Action} {log : Log}
    {o : Outcome HostError FrameEnd (Host ρ ι δ β)} (first : h.Frames actions o)
    (result : o.result = .ok .played) (later : Plays n o.state rest log h') :
    Plays (n + 1) h (actions ++ rest) (o.log ++ log) h'

namespace Plays

variable {c : Nat} {h h' : Host ρ ι δ β} {actions : List Action} {log : Log}

/-- Playing frames leaves no wait for a register that does not exist. -/
theorem waits (hp : Plays c h actions log h') (hw : h.machine.WaitsInRange) :
    h'.machine.WaitsInRange := by
  induction hp with
  | none => exact hw
  | frame hf _ _ ih => exact ih (hf.waits hw)

/-- The actions of frames that are played make the host what it is after them. -/
theorem perform (hp : Plays c h actions log h') (hw : h.machine.WaitsInRange) :
    h.perform actions = .ok h' := by
  induction hp with
  | none => rfl
  | frame hf _ _ ih =>
    rw [perform_append (hf.perform hw)]
    exact ih (hf.waits hw)

/-- After frames that are played the input has been scanned once for each. -/
theorem input (hp : Plays c h actions log h') : h'.input = Input.after h.input c := by
  induction hp with
  | none => rfl
  | frame hf _ _ ih => rw [ih, hf.input, Input.after]

/-- Every scan of frames that are played has given keys. -/
theorem keys (hp : Plays c h actions log h') {j : Nat} (hj : j < c) :
    ∃ keypad, (Input.scan (Input.after h.input j)).answer = .ok (some keypad) := by
  induction hp generalizing j with
  | none => cases hj
  | frame hf hr _ ih =>
    cases j with
    | zero =>
      cases hf with
      | played hk _ _ _ => exact ⟨_, hk.keys⟩
      | unscanned _ | quit _ | faulted _ _ | undrawn _ _ _ | unheard _ _ _ _ => cases hr
    | succ j =>
      rw [Input.after, ← hf.input]
      exact ih (Nat.lt_of_succ_lt_succ hj)

/-- A sequence of frames begins with those that are played. -/
theorem frames_eq (hp : Plays c h actions log h') (hw : h.machine.WaitsInRange)
    (n played : Nat) (before : Log) :
    h.frames (c + n) played before = h'.frames n (played + c) (before ++ log) := by
  -- A frame moves from what is still to come into what has been played and noted before.
  induction hp generalizing played before with
  | none =>
    rw [Nat.zero_add, Array.append_empty]
    rfl
  | @frame c _ _ _ _ _ _ hf hr _ ih =>
    rw [Nat.succ_add, frames, frame_of_frames hw hf]
    simp only [hr]
    rw [ih (hf.waits hw), Array.append_assoc, Nat.add_assoc, Nat.add_comm 1 c]

/-- Frames that are played after others are played after all of what came before. -/
theorem trans {n : Nat} {h'' : Host ρ ι δ β} {more : List Action} {log' : Log}
    (hp : Plays c h actions log h') (hp' : Plays n h' more log' h'') :
    Plays (c + n) h (actions ++ more) (log ++ log') h'' := by
  induction hp with
  | none =>
    rw [Nat.zero_add, List.nil_append, Array.empty_append]
    exact hp'
  | frame hf hr _ ih =>
    rw [Nat.succ_add, List.append_assoc, Array.append_assoc]
    exact .frame hf hr (ih hp')

end Plays

/-! ### The end of a sequence -/

/-- A sequence of at most `n` frames and the actions in it: frames that are played, and then the
limit or a frame that ends it. -/
inductive Runs (h : Host ρ ι δ β) (n : Nat) :
    List Action → Sequence (Host ρ ι δ β) → Prop where
  /-- All frames are played. -/
  | limit {actions : List Action} {log : Log} {before : Host ρ ι δ β}
    (plays : Plays n h actions log before) : Runs h n actions ⟨.limit, n, before, log⟩
  /-- The user quits in the last frame. -/
  | quit {c : Nat} {actions last : List Action} {log : Log} {before : Host ρ ι δ β}
    {o : Outcome HostError FrameEnd (Host ρ ι δ β)} (room : c < n)
    (plays : Plays c h actions log before) (frame : before.Frames last o)
    (result : o.result = .ok .quit) :
    Runs h n (actions ++ last) ⟨.quit, c, o.state, (log ++ o.log).push (.quit c)⟩
  /-- The last frame fails. -/
  | failed {c : Nat} {actions last : List Action} {log : Log} {before : Host ρ ι δ β}
    {o : Outcome HostError FrameEnd (Host ρ ι δ β)} {e : HostError} (room : c < n)
    (plays : Plays c h actions log before) (frame : before.Frames last o)
    (result : o.result = .error e) :
    Runs h n (actions ++ last) ⟨.failed e, c, o.state, log ++ o.log⟩

/-- Every host has a case of `Runs` for any number of frames. -/
theorem exists_runs (h : Host ρ ι δ β) (n : Nat) : ∃ actions s, h.Runs n actions s := by
  induction n generalizing h with
  | zero => exact ⟨_, _, .limit .none⟩
  | succ n ih =>
    obtain ⟨actions, o, hf⟩ := h.exists_frames
    cases hr : o.result with
    | error e => exact ⟨_, _, .failed n.succ_pos .none hf hr⟩
    | ok ended =>
      cases ended with
      | quit => exact ⟨_, _, .quit n.succ_pos .none hf hr⟩
      | played =>
        -- The frame goes in front of whatever the rest is.
        obtain ⟨_, _, hs⟩ := ih o.state
        cases hs with
        | limit hp => exact ⟨_, _, .limit (.frame hf hr hp)⟩
        | quit hc hp hf' hr' =>
          exact ⟨_, _, .quit (Nat.succ_lt_succ hc) (.frame hf hr hp) hf' hr'⟩
        | failed hc hp hf' hr' =>
          exact ⟨_, _, .failed (Nat.succ_lt_succ hc) (.frame hf hr hp) hf' hr'⟩

/-- A sequence that begins where frames that are played have come to ends a longer one, as it ends
itself. -/
theorem Plays.runs {c n : Nat} {h before : Host ρ ι δ β} {actions more : List Action} {log : Log}
    {s : Sequence (Host ρ ι δ β)} (hp : Plays c h actions log before)
    (hr : before.Runs n more s) :
    ∃ log', h.Runs (c + n) (actions ++ more) ⟨s.ending, c + s.played, s.host, log'⟩ := by
  cases hr with
  | limit hp' => exact ⟨_, .limit (hp.trans hp')⟩
  | quit hc hp' hf hr =>
    rw [← List.append_assoc]
    exact ⟨_, .quit (Nat.add_lt_add_left hc c) (hp.trans hp') hf hr⟩
  | failed hc hp' hf hr =>
    rw [← List.append_assoc]
    exact ⟨_, .failed (Nat.add_lt_add_left hc c) (hp.trans hp') hf hr⟩

namespace Runs

variable {h : Host ρ ι δ β} {n : Nat} {actions : List Action} {s : Sequence (Host ρ ι δ β)}

/-- The case of `Runs` that a host has is the sequence of its frames. -/
theorem frames_eq (hr : h.Runs n actions s) (hw : h.machine.WaitsInRange) :
    h.frames n 0 #[] = .ok s := by
  cases hr with
  | limit hp =>
    rw [← Nat.add_zero n, hp.frames_eq hw]
    simp [frames]
  | quit hc hp hf hr | failed hc hp hf hr =>
    obtain ⟨m, rfl⟩ := Nat.exists_eq_add_of_lt hc
    rw [Nat.add_assoc, hp.frames_eq hw, frames, frame_of_frames (hp.waits hw) hf]
    simp [hr]

/-- A sequence that has ended before its limit ends so under any higher limit. -/
theorem mono (hr : h.Runs n actions s) (he : s.ending ≠ .limit) {n' : Nat} (hn : n ≤ n') :
    h.Runs n' actions s := by
  cases hr with
  | limit _ => exact absurd rfl he
  | quit hc hp hf hr => exact .quit (Nat.lt_of_lt_of_le hc hn) hp hf hr
  | failed hc hp hf hr => exact .failed (Nat.lt_of_lt_of_le hc hn) hp hf hr

/-- The actions of a sequence make the host what it is at its end. -/
theorem perform (hr : h.Runs n actions s) (hw : h.machine.WaitsInRange) :
    h.perform actions = .ok s.host := by
  cases hr with
  | limit hp => exact hp.perform hw
  | quit _ hp hf _ | failed _ hp hf _ =>
    rw [perform_append (hp.perform hw)]
    exact hf.perform (hp.waits hw)

/-- As many frames are played as there may be, unless one ends the sequence. -/
theorem played_le (hr : h.Runs n actions s) :
    s.played ≤ n ∧ (s.played = n ↔ s.ending = .limit) := by
  cases hr with
  | limit _ => exact ⟨Nat.le_refl n, by simp⟩
  | quit hc _ _ _ | failed hc _ _ _ => exact ⟨Nat.le_of_lt hc, by simp [Nat.ne_of_lt hc]⟩

/-- A sequence does not get past a scan without keys to its limit. -/
theorem ending_ne_limit (hr : h.Runs n actions s) {k : Nat} (hk : k < n)
    (hq : ∀ keypad, (Input.scan (Input.after h.input k)).answer ≠ .ok (some keypad)) :
    s.ending ≠ .limit := by
  cases hr with
  | limit hp =>
    obtain ⟨keypad, hs⟩ := hp.keys hk
    exact absurd hs (hq keypad)
  | quit _ _ _ _ | failed _ _ _ _ => exact Ending.noConfusion

/-- A run switches the buzzer off after its sequence. -/
theorem run_eq {limit : Option Nat} {fuel : Nat} (hr : h.Runs (limit.getD fuel) actions s)
    (hw : h.machine.WaitsInRange) (he : limit = none → s.ending ≠ .limit) :
    h.run limit fuel = .ok (some (finish s)) := by
  have hs := hr.frames_eq hw
  cases limit with
  | some n =>
    rw [Option.getD_some] at hs
    simp only [run, runFor, hs]
    rfl
  | none =>
    rw [Option.getD_none] at hs
    simp only [run, runOn, hs]
    cases hend : s.ending with
    | limit => exact absurd hend (he rfl)
    | quit | failed _ => rfl

end Runs

/-- Frames that are asked for one by one have an outcome each. -/
theorem exists_reel {h : Host ρ ι δ β} (hw : h.machine.WaitsInRange) (n : Nat) :
    ∃ r : Reel (Host ρ ι δ β), reel n h = .ok r := by
  induction n generalizing h with
  | zero => exact ⟨_, rfl⟩
  | succ n ih =>
    obtain ⟨actions, o, hf⟩ := h.exists_frames
    obtain ⟨r, hr⟩ := ih (hf.waits hw)
    refine ⟨⟨o.result :: r.results, r.host, o.log ++ r.log⟩, ?_⟩
    simp only [reel, frame_of_frames hw hf, hr]

/-- The sequence that the frames of a host give is one that the host has a case for. -/
theorem exists_runs_of_frames {h : Host ρ ι δ β} (hw : h.machine.WaitsInRange) {n : Nat}
    {s : Sequence (Host ρ ι δ β)} (hs : h.frames n 0 #[] = .ok s) :
    ∃ actions, h.Runs n actions s := by
  obtain ⟨actions, s', hr⟩ := h.exists_runs n
  rw [hr.frames_eq hw] at hs
  cases hs
  exact ⟨actions, hr⟩

/-- A run that comes to its end is a sequence, with the buzzer switched off after it. -/
theorem exists_runs_of_run {h : Host ρ ι δ β} (hw : h.machine.WaitsInRange) {limit : Option Nat}
    {fuel : Nat} {r : Run (Host ρ ι δ β)} (hr : h.run limit fuel = .ok (some r)) :
    ∃ actions s, h.Runs (limit.getD fuel) actions s ∧ (limit = none → s.ending ≠ .limit) ∧
      r = finish s := by
  obtain ⟨actions, s, hs⟩ := h.exists_runs (limit.getD fuel)
  have he : limit = none → s.ending ≠ .limit := by
    rintro rfl hend
    have hf := hs.frames_eq hw
    rw [Option.getD_none] at hf
    simp only [run, runOn, hf, hend] at hr
    cases hr
  rw [hs.run_eq hw he] at hr
  cases hr
  exact ⟨actions, s, hs, he, rfl⟩

/-- If there is a limit, or a scan that gives no keys, there is a sequence that no fuel beyond a
certain amount changes. -/
theorem exists_enough (h : Host ρ ι δ β) (limit : Option Nat)
    (hq : limit = none → Input.Ends h.input) :
    ∃ enough actions s, (limit = none → s.ending ≠ .limit) ∧
      ∀ fuel, enough ≤ fuel → h.Runs (limit.getD fuel) actions s := by
  cases limit with
  | some n =>
    obtain ⟨actions, s, hr⟩ := h.exists_runs n
    exact ⟨0, actions, s, by simp, fun _ _ ↦ hr⟩
  | none =>
    obtain ⟨k, hk⟩ := hq rfl
    obtain ⟨actions, s, hr⟩ := h.exists_runs (k + 1)
    have he : s.ending ≠ .limit := hr.ending_ne_limit k.lt_succ_self hk
    exact ⟨k + 1, actions, s, fun _ ↦ he, fun _ hf ↦ hr.mono he hf⟩

end Host
end Chip8
