import Chip8.CommandLine.Session
import Chip8.Proofs.Runs

/-!
# Ends of sessions

A session whose frames are limited, or whose user quits, ends in a report. The machine is never
misused on the way, and the exit code tells whether there was an error.
-/

namespace Chip8.CommandLine

variable {o : Options} {entropy : UInt64} {rom : Except SystemError Reading} {typed : List UInt8}

/-- The machine of a session waits for no register that does not exist. -/
theorem waitsInRange_of_machineFor {machine : Machine ChaCha}
    (h : machineFor o entropy rom = .ok machine) : machine.WaitsInRange := by
  have hw : (Machine.powerOn (o.source entropy) o.dialect).WaitsInRange :=
    Machine.waitsInRange_of_running rfl
  unfold machineFor at h
  split at h
  · cases h
  · next reading =>
    obtain ⟨outcome, ho⟩ :=
      (Machine.powerOn (o.source entropy) o.dialect).exists_obeys (.loadFrom reading)
    have hloaded : Machine.loadFrom _ reading = outcome :=
      Except.ok.inj (Machine.obey_of_obeys hw ho)
    rw [hloaded] at h
    simp only at h
    split at h
    · cases h
    · cases h
      exact hw.obeys ho

/-- A report has an error to tell if and only if its exit code is not zero. -/
def Report.Consistent (r : Report) : Prop :=
  r.code = 0 ∧ r.error = "" ∨ r.code = 1 ∧ ∃ text, r.error = errorLine text

/-- The report of a run is consistent. -/
theorem consistent_reportOf (run : Run TerminalHost) : (reportOf run).Consistent := by
  unfold reportOf
  split
  · exact .inl ⟨rfl, rfl⟩
  · exact .inr ⟨rfl, _, rfl⟩

/-- A session with a limit, or with a scan that gives no keys, comes to one consistent report with
any fuel beyond a certain amount. -/
theorem exists_report (hq : o.limit = none → Input.Ends (Terminal.Console.idle.type typed)) :
    ∃ enough report, report.Consistent ∧
      ∀ fuel, enough ≤ fuel → session o entropy rom typed fuel = .ok (some report) := by
  cases hm : machineFor o entropy rom with
  | error text =>
    refine ⟨0, ⟨1, errorLine text, ⟨[], true⟩⟩, .inr ⟨rfl, text, rfl⟩, fun fuel _ ↦ ?_⟩
    rw [session, hm]
  | ok machine =>
    obtain ⟨enough, actions, s, he, hruns⟩ := (hostFor o machine typed).exists_enough o.limit hq
    refine ⟨enough, _, consistent_reportOf (Host.finish s), fun fuel hf ↦ ?_⟩
    have hrun := (hruns fuel hf).run_eq (waitsInRange_of_machineFor hm) he
    simp only [session, hm, hrun]

/-- The key Escape on the line ends a session that has no limit. -/
example : Input.Ends (Terminal.Console.idle.type [0x1B]) := by
  refine ⟨0, fun keypad h ↦ ?_⟩
  have hquit : (Input.scan (Terminal.Console.idle.type [0x1B])).answer.toOption = some none := by
    decide +kernel
  rw [Input.after] at h
  rw [h] at hquit
  cases hquit

end Chip8.CommandLine
