import LineShell.Proofs.Answers
import LineShell.Proofs.Shadowing
import LineShell.Proofs.SignalDiscipline
import LineShell.Source.Basic
/-!
# What leaves a process where it is

`World.Stays` says that a process is where it was, with the variables that it had. The computations
that are still in this sense (`Proc.IsStill`) are closed under the steps of a shell: making children
and waiting for them, the calls on open numbers, the changes of signal actions, and reading the next
line from whatever source.

The main result is `Shell.stays_exec`: no line moves a shell unless `cd` leads it.
-/

namespace LineShell

variable {α β : Type}

/-! ### Staying -/

namespace World

variable {u v w w' : World}

/-- The process is where it was, and has the variables that it had. -/
structure Stays (w w' : World) : Prop where
  directory : w'.self.directory = w.self.directory
  environment : w'.self.environment = w.self.environment

theorem Stays.refl (w : World) : Stays w w := ⟨rfl, rfl⟩

theorem Stays.trans (h : Stays u v) (h' : Stays v w) : Stays u w :=
  ⟨h'.directory.trans h.directory, h'.environment.trans h.environment⟩

theorem Stays.of_self (h : w'.self = w.self) : Stays w w' :=
  ⟨congrArg Process.directory h, congrArg Process.environment h⟩

end World

/-! ### Calls -/

namespace Call

theorem onDescriptors_peek (fd : Nat) : OnDescriptors (peek fd) := by
  refine (onDescriptors_handle? fd).bind fun h => ?_
  cases h with
  | none => exact onDescriptors_pure _
  | some h => exact fun _ => ⟨_, _, rfl⟩

theorem onDescriptors_skip (fd count : Nat) : OnDescriptors (skip fd count) := by
  refine (onDescriptors_handle? fd).bind fun h => ?_
  cases h with
  | none => exact onDescriptors_pure _
  | some h => exact fun _ => ⟨_, _, rfl⟩

theorem onDescriptors_read (fd count : Nat) : OnDescriptors (read fd count) := by
  refine (onDescriptors_peek fd).bind fun r => ?_
  cases r with
  | error e => exact onDescriptors_pure _
  | ok s => exact (onDescriptors_skip fd _).bind fun _ => onDescriptors_pure _

end Call

/-! ### Computations -/

/-- The computation leaves the process where it is, with the variables that it has. -/
def Proc.IsStill (act : Proc α) : Prop := ∀ w, World.Stays w (act.run w).2

namespace Proc

theorem isStill_pure (a : α) : IsStill (pure a : Proc α) := fun w => .refl w

theorem IsStill.bind {x : Proc α} {f : α → Proc β} (hx : IsStill x) (hf : ∀ a, IsStill (f a)) :
    IsStill (x >>= f) := fun w => (hx w).trans (hf _ _)

theorem isStill_call {act : Call α} (h : act.OnDescriptors) : IsStill (Proc.call act) := by
  intro w
  obtain ⟨t, m, hrun⟩ := h w.toContext
  rw [run_call, hrun]
  exact ⟨rfl, rfl⟩

theorem isStill_forM {f : α → Proc PUnit} (h : ∀ a, IsStill (f a)) (as : List α) :
    IsStill (as.forM f) := by
  induction as with
  | nil => exact isStill_pure _
  | cons a as ih => exact (h a).bind fun _ => ih

theorem isStill_log (record : Log.Record) : IsStill (Proc.log record) := by
  intro w
  rw [run_log]
  exact .of_self rfl

theorem isStill_write (fd : Nat) (text : Text) : IsStill (Proc.write fd text) := by
  intro w
  rw [run_write]
  exact .of_self rfl

/-- Whatever a child does to itself ends with it. -/
theorem isStill_fork (body : Proc Fate) : IsStill (Proc.fork body) := by
  intro w
  cases hrefusal : w.refusal .fork with
  | some e =>
    rw [run_fork_refused hrefusal]
    exact .of_self rfl
  | none =>
    rw [run_fork_granted hrefusal]
    exact .of_self rfl

theorem isStill_pipe : IsStill Proc.pipe := by
  intro w
  rcases pipe_cases w with ⟨e, h⟩ | ⟨readEnd, writeEnd, -, h⟩
  · rw [h]
    exact .of_self rfl
  · rw [h]
    exact ⟨rfl, rfl⟩

theorem isStill_exec (argv : List Text) : IsStill (Proc.exec argv) := by
  intro w
  rw [run_exec]
  rcases Execution.tryExec_cases argv w with ⟨e, h⟩ | ⟨image, h⟩
  · rw [h]
    exact .of_self rfl
  · rw [h]
    exact ⟨rfl, rfl⟩

end Proc

namespace Signals

open Proc

theorem isStill_guarded {act : Proc α} (h : IsStill act) : IsStill (guarded act) := by
  intro w
  obtain ⟨before, after, hrun⟩ := run_guarded act w
  rw [hrun]
  have hact := h (w.altered (w.installed .ignoring) before (.signalAction :: w.calls))
  exact ⟨hact.directory, hact.environment⟩

theorem isStill_install (d : Disposition) : IsStill (install d) := by
  intro w
  cases hrefusal : w.refusal .signalAction with
  | some e =>
    rw [run_install_refused hrefusal]
    exact .of_self rfl
  | none =>
    rw [run_install_granted hrefusal]
    exact ⟨rfl, rfl⟩

theorem isStill_reapInherited (fuel : Nat) : IsStill (reapInherited fuel) :=
  fun w => .of_self (run_reapInherited fuel w).1

/-- Taking care of interrupts leaves the process where it is. -/
theorem isStill_startup : IsStill startup := by
  refine (isStill_install .ignoring).bind fun r => ?_
  cases r with
  | error e => exact isStill_pure _
  | ok _ =>
    have hget : IsStill (get : Proc World) := fun w => .refl w
    exact hget.bind fun _ => (isStill_reapInherited _).bind fun _ => isStill_install _

end Signals

namespace Execution

open Proc

theorem isStill_launchOne (body : Proc Fate) (record : Nat → Log.Record) :
    IsStill (launchOne body record) := by
  refine (isStill_fork body).bind fun r => ?_
  cases r with
  | error e => exact isStill_pure _
  | ok pid => exact (isStill_log _).bind fun _ => isStill_pure _

theorem isStill_launchStages (writer reader : List Text) (readEnd writeEnd : Nat) :
    IsStill (launchStages writer reader readEnd writeEnd) := by
  have hclose : IsStill (closeEnds readEnd writeEnd) := fun _ => ⟨rfl, rfl⟩
  refine (isStill_fork _).bind fun r => ?_
  cases r with
  | error e => exact hclose.bind fun _ => isStill_pure _
  | ok writerPid =>
    refine (isStill_fork _).bind fun r => ?_
    cases r with
    | error e => exact hclose.bind fun _ => isStill_pure _
    | ok readerPid =>
      exact hclose.bind fun _ => (isStill_log _).bind fun _ => isStill_pure _

theorem isStill_launch (p : Plan) : IsStill (launch p) := by
  rw [launch_eq]
  split
  · exact isStill_pure _
  cases p with
  | simple v => exact isStill_launchOne _ _
  | redirect v target mode => exact isStill_launchOne _ _
  | pipeline left right =>
    refine isStill_pipe.bind fun r => ?_
    rcases r with e | ⟨readEnd, writeEnd⟩
    · exact isStill_pure _
    · exact isStill_launchStages _ _ readEnd writeEnd

theorem isStill_waits (pids : List Nat) : IsStill (waits pids) := by
  unfold waits
  split
  · exact isStill_pure _
  · exact Signals.isStill_guarded fun w => .of_self (waited_forM pids w).self

theorem isStill_runPlan (p : Plan) : IsStill (Shell.runPlan p) := by
  intro w
  rw [run_runPlan]
  exact (isStill_launch p w).trans (isStill_waits _ _)

/-- Becoming a program, or failing to, leaves the process where it is. -/
theorem isStill_replaceImage (v : ArgVector) : IsStill (replaceImage v) := by
  intro w
  have hcases := replacement_replaceImage v w
  generalize (replaceImage v).run w = r at hcases ⊢
  cases hcases with
  | unfit _ => exact .refl w
  | failed _ e _ records calls hu =>
    rw [hu]
    exact ⟨rfl, rfl⟩
  | @started args _ image u hu =>
    have hexec := isStill_exec args (w.altered w.resetInterrupts [] (.signalAction :: w.calls))
    rw [hu] at hexec
    exact ⟨hexec.directory, hexec.environment⟩

end Execution

/-! ### Reading a line -/

namespace ScriptLines

open Proc

theorem isStill_takeLine {refill : Proc (Except IoError Bytes)} (h : IsStill refill) (fuel : Nat)
    (taken buffered : Bytes) : IsStill (takeLine refill fuel taken buffered) := by
  induction fuel generalizing taken buffered with
  | zero => exact isStill_pure _
  | succ fuel ih =>
    unfold takeLine
    split
    · exact isStill_pure _
    · refine h.bind fun r => ?_
      rcases r with e | _ | ⟨b, bytes⟩
      · exact isStill_pure _
      · exact isStill_pure _
      · exact ih _ _

end ScriptLines

namespace Source

open Proc

theorem isStill_ahead (descriptor : Nat) : IsStill (ahead descriptor) := by
  refine (isStill_call (Call.onDescriptors_peek descriptor)).bind fun r => ?_
  cases r <;> exact isStill_pure _

theorem isStill_refill (descriptor : Nat) : IsStill (refill descriptor) := by
  refine (isStill_call (Call.onDescriptors_read descriptor bufferSize)).bind fun r => ?_
  cases r <;> exact isStill_pure _

/-- Reading a line leaves the shell where it is, whatever the line comes from. -/
theorem isStill_next (source : Source) : IsStill source.next := by
  cases source with
  | oneShot line => exact isStill_pure _
  | script descriptor buffered =>
    refine (isStill_ahead descriptor).bind fun bound => ?_
    have htake := ScriptLines.isStill_takeLine (isStill_refill descriptor) (bound + 2) [] buffered
    refine htake.bind fun r => ?_
    rcases r with ⟨_ | _, _⟩ <;> exact isStill_pure _
  | terminal entries history watched =>
    cases watched with
    | true => exact isStill_pure _
    | false => exact (isStill_forM isStill_log watchRecords).bind fun _ => isStill_pure _

end Source

/-! ### Lines -/

namespace Shell

open World

variable {shell : Shell} {w : World} {line : Text}

/-- **A line that `cd` does not lead leaves the shell where it is**, in whatever way it ends. -/
theorem stays_exec (h : ¬LedBy shell w line (Text.lit "cd")) :
    let r := ((exec line).start shell).run w
    r.1.2 = shell ∧ Stays w r.2 := by
  have hnoting : ∀ u records, Stays u (u.noting records) := fun _ _ => .of_self rfl
  have hcourse := course_exec line shell w
  generalize ((exec line).start shell).run w = r at hcourse ⊢
  cases hcourse with
  | refused _ records => exact ⟨rfl, hnoting w records⟩
  | settled flow _ records => exact ⟨rfl, hnoting w records⟩
  | moved operand records after hcd hafter hled => exact absurd hled h
  | helped records after =>
    have hwrite := Proc.isStill_write Execution.stdout (Builtin.help ++ ['\n']) (w.noting records)
    exact ⟨rfl, (hnoting w records).trans (hwrite.trans (hnoting _ after))⟩
  | became v records hrun =>
    have hreplace := Execution.isStill_replaceImage v (w.noting records)
    rw [hrun] at hreplace
    exact ⟨rfl, (hnoting w records).trans hreplace⟩
  | @ran p _ records _ _ hrun =>
    have hchildren := Execution.isStill_runPlan p (w.noting records)
    rw [hrun] at hchildren
    exact ⟨rfl, (hnoting w records).trans hchildren⟩

end Shell

end LineShell
