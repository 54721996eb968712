import LineShell.Proofs.Runs
/-!
# Changes of the interrupt action

What the shell does to its signal actions touches nothing else of the world but the log and the
count of calls. `World.altered` is such a change, and every step of the signal coordinator is one:
installing a disposition, the reset before a program starts, and taking up again what the reset has
undone. `World.installed` says what a change of the disposition leaves, refused or not.
-/

namespace LineShell

namespace World

/-- The world with other interrupts, after log records, with other calls counted. -/
def altered (w : World) (i : Interrupts) (records : List Log.Record) (calls : List CallKind) :
    World :=
  { w.noting records with self := { w.self with interrupts := i }, calls := calls }

/-- Only interrupts, log and counted calls may differ. -/
def Alters (w w' : World) : Prop := ∃ i records calls, w' = w.altered i records calls

theorem altered_altered (w : World) (i i' : Interrupts) (records records' : List Log.Record)
    (calls calls' : List CallKind) :
    (w.altered i records calls).altered i' records' calls' =
      w.altered i' (records ++ records') calls' := by
  unfold altered noting
  rw [List.foldl_append]

theorem noting_eq_altered (w : World) (records : List Log.Record) :
    w.noting records = w.altered w.self.interrupts records w.calls := rfl

namespace Alters

variable {w w' : World}

theorem children (h : Alters w w') : w'.children = w.children := by
  obtain ⟨i, records, calls, rfl⟩ := h
  rfl

theorem faults (h : Alters w w') : w'.faults = w.faults := by
  obtain ⟨i, records, calls, rfl⟩ := h
  rfl

end Alters

/-- The interrupts that an attempt to install a disposition leaves. -/
def installed (w : World) (d : Disposition) : Interrupts :=
  match w.refusal .signalAction with
  | none => w.self.interrupts.record d
  | some _ => w.self.interrupts

/-- The interrupts that the reset before a program starts leaves; what is recorded stays. -/
def resetInterrupts (w : World) : Interrupts :=
  match w.refusal .signalAction with
  | none => { w.self.interrupts with sigint := .default, sigpipe := .default }
  | some _ => { w.self.interrupts with sigpipe := .default }

theorem installed_of_granted {w : World} (h : w.refusal .signalAction = none) (d : Disposition) :
    w.installed d = w.self.interrupts.record d := by
  unfold installed
  rw [h]

theorem sigpipe_installed (w : World) (d : Disposition) :
    (w.installed d).sigpipe = w.self.interrupts.sigpipe := by
  unfold installed
  cases w.refusal .signalAction <;> rfl

theorem sigpipe_resetInterrupts (w : World) : w.resetInterrupts.sigpipe = .default := by
  unfold resetInterrupts
  cases w.refusal .signalAction <;> rfl

end World

namespace Signals

/-- What the log is told of a change from one disposition to another. -/
def changeRecords (previous d : Disposition) : List Log.Record :=
  if previous ≠ d then
    [⟨.debug, source, Text.lit "SIGINT disposition changed",
      [Log.Record.field "previous" (name previous), Log.Record.field "disposition" (name d)]⟩]
  else []

theorem run_setAction_refused {w : World} {e : Errno} (h : w.refusal .signalAction = some e)
    (action : SignalAction) :
    (setAction action).run w = (.error e, w.counting .signalAction) :=
  Proc.run_attempt_refused h _

theorem run_setAction_granted {w : World} (h : w.refusal .signalAction = none)
    (action : SignalAction) :
    (setAction action).run w =
      (.ok (), w.altered { w.self.interrupts with sigint := action } [] (.signalAction :: w.calls)) :=
  Proc.run_attempt_granted h _

/-- A refused change of the disposition changes nothing. -/
theorem run_install_refused {w : World} {e : Errno} (h : w.refusal .signalAction = some e)
    (d : Disposition) :
    (install d).run w = (.error (.signal e), w.counting .signalAction) := by
  unfold install
  rw [run_bind, run_setAction_refused h]
  rfl

/-- A granted change of the disposition changes the action, and what is recorded with it. -/
theorem run_install_granted {w : World} (h : w.refusal .signalAction = none) (d : Disposition) :
    (install d).run w =
      (.ok (), w.altered (w.self.interrupts.record d)
        (changeRecords w.self.interrupts.recorded d) (.signalAction :: w.calls)) := by
  unfold install
  rw [run_bind, run_setAction_granted h]
  dsimp only
  rw [run_bind, run_bind]
  unfold changeRecords
  show (if w.self.interrupts.recorded ≠ d then _ else _ : Proc _).run _ = _
  split
  · rw [run_bind, Proc.run_log]
    rfl
  · rfl

theorem run_installOrWarn (d : Disposition) (w : World) :
    ∃ records, (installOrWarn d).run w =
      ((), w.altered (w.installed d) records (.signalAction :: w.calls)) := by
  unfold installOrWarn World.installed
  rw [run_bind]
  cases h : w.refusal .signalAction with
  | none =>
    rw [run_install_granted h]
    exact ⟨_, rfl⟩
  | some e =>
    rw [run_install_refused h]
    dsimp only
    rw [Proc.run_log]
    exact ⟨[_], rfl⟩

theorem run_resetForChild (w : World) :
    resetForChild.run w = ((), w.altered w.resetInterrupts [] (.signalAction :: w.calls)) := by
  unfold resetForChild World.resetInterrupts
  rw [run_bind]
  cases h : w.refusal .signalAction with
  | none =>
    rw [run_setAction_granted h]
    rfl
  | some e =>
    rw [run_setAction_refused h]
    rfl

/-- Taking up the interrupts of the prompt again makes a broken pipe ignored, even where the change
of the disposition is refused. -/
theorem run_resume (w : World) :
    ∃ records, (resume.run w).2 =
      w.altered { w.installed .interactive with sigpipe := .ignore } records
        (.signalAction :: w.calls) := by
  unfold resume World.installed
  rw [run_bind]
  have hw : ∀ i : Interrupts, (w.altered i [] w.calls).refusal .signalAction =
      w.refusal .signalAction := fun _ => rfl
  show ∃ records, ((install .interactive).run (w.altered { w.self.interrupts with
    sigpipe := .ignore } [] w.calls)).2 = _
  cases h : w.refusal .signalAction with
  | none =>
    rw [run_install_granted (by rw [hw, h]), World.altered_altered]
    exact ⟨_, rfl⟩
  | some e =>
    rw [run_install_refused (e := e) (by rw [hw, h])]
    exact ⟨_, rfl⟩

/-- **A guard brackets an action**: it runs with what the attempt to ignore interrupts leaves, and
then the disposition recorded before is installed again. -/
theorem run_guarded {α : Type} (act : Proc α) (w : World) :
    ∃ before after, (guarded act).run w =
      let v := w.altered (w.installed .ignoring) before (.signalAction :: w.calls)
      let u := (act.run v).2
      ((act.run v).1, u.altered (u.installed w.self.interrupts.recorded) after
        (.signalAction :: u.calls)) := by
  obtain ⟨before, hbefore⟩ := run_installOrWarn .ignoring w
  have hmake : Guard.make.run w = (⟨w.self.interrupts.recorded⟩,
      w.altered (w.installed .ignoring) before (.signalAction :: w.calls)) := by
    unfold Guard.make
    rw [run_bind, run_bind]
    show (Guard.mk w.self.interrupts.recorded, ((installOrWarn .ignoring).run w).2) = _
    rw [hbefore]
  obtain ⟨after, hafter⟩ := run_installOrWarn w.self.interrupts.recorded
    (act.run (w.altered (w.installed .ignoring) before (.signalAction :: w.calls))).2
  refine ⟨before, after, ?_⟩
  unfold guarded
  rw [run_bind, hmake, run_bind, run_bind]
  show (_, ((installOrWarn w.self.interrupts.recorded).run _).2) = _
  rw [hafter]

end Signals

end LineShell
