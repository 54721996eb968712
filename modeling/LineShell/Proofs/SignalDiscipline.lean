import LineShell.Proofs.Calls
import LineShell.Proofs.Lines
/-!
# Signal actions through a session

Between two lines the interrupt handler of the prompt is installed and recorded, and a broken pipe
is ignored. While the shell waits, an interrupt is ignored and recorded so. A program starts with
both at their defaults, in a child and in the place of the shell.

`World.Orderly` is what a step of the shell keeps when it begins at the prompt, and
`Proc.IsOrderly` is closed under the steps of which a line is made. `Session.Between` gathers the
worlds between two lines of all sessions; the headline is `Session.signals_between`.
-/

namespace LineShell

variable {α β : Type}

/-- The interrupts at the prompt: the handler, recorded, and broken pipes ignored. -/
def Interrupts.AtPrompt (i : Interrupts) : Prop := i = ⟨.interactive, .handler, .ignore⟩

/-- Waits ignore interrupts and have recorded so, and programs start with default actions. -/
def Event.Disciplined : Event → Prop
  | .waited _ caller _ _ =>
    caller.interrupts.recorded = .ignoring ∧ caller.interrupts.sigint = .ignore
  | .started _ caller _ => caller.interrupts.ByDefault
  | _ => True

theorem Event.OfChild.disciplined {e : Event} {pid : Nat} {args : List Text}
    (h : e.OfChild pid args) (hdefault : e.StartsByDefault) : e.Disciplined := by
  cases e with
  | started words caller result => exact hdefault
  | waited => exact h.elim
  | forked | polled | opened | piped => trivial

/-! ### Orderly steps -/

namespace World

/-- All that was asked of the machine meanwhile was asked with the right signal actions. -/
def Disciplined (w w' : World) : Prop :=
  ∃ made, w'.trace = made ++ w.trace ∧ ∀ e ∈ made, e.Disciplined

/-- What an orderly step leaves: the interrupts it found, after nothing but disciplined events. -/
structure Orderly (w w' : World) : Prop where
  faults : w'.faults = w.faults
  interrupts : w'.self.interrupts = w.self.interrupts
  disciplined : Disciplined w w'

theorem Disciplined.of_eq {w w' : World} (h : w'.trace = w.trace) : Disciplined w w' :=
  ⟨[], h, fun _ he => absurd he List.not_mem_nil⟩

theorem Disciplined.trans {u v w : World} (h : Disciplined u v) (h' : Disciplined v w) :
    Disciplined u w := by
  obtain ⟨made, htrace, hmade⟩ := h
  obtain ⟨made', htrace', hmade'⟩ := h'
  refine ⟨made' ++ made, by rw [htrace', htrace, List.append_assoc], fun e he => ?_⟩
  rcases List.mem_append.1 he with he | he
  · exact hmade' e he
  · exact hmade e he

namespace Orderly

variable {u v w w' : World}

theorem trans (h : Orderly u v) (h' : Orderly v w) : Orderly u w :=
  ⟨h'.faults.trans h.faults, h'.interrupts.trans h.interrupts, h.disciplined.trans h'.disciplined⟩

theorem of_eq (hfaults : w'.faults = w.faults)
    (hinterrupts : w'.self.interrupts = w.self.interrupts) (htrace : w'.trace = w.trace) :
    Orderly w w' := ⟨hfaults, hinterrupts, .of_eq htrace⟩

theorem noting (w : World) (records : List Log.Record) : Orderly w (w.noting records) :=
  of_eq rfl rfl rfl

/-- Forking is orderly: the child gives up the actions of the shell before it starts a program. -/
theorem of_forked {args : List Text} (hgrants : w.GrantsSignals) (h : Forked args w w') :
    Orderly w w' := by
  obtain ⟨made, htrace, hmade⟩ := h.trace
  refine ⟨h.faults, by rw [h.self], made ++ [.forked w.nextPid], ?_, fun e he => ?_⟩
  · rw [htrace, List.append_assoc]
    rfl
  · rcases List.mem_append.1 he with he | he
    · exact (hmade e he).1.disciplined ((hmade e he).2 hgrants)
    · rw [List.mem_singleton.1 he]
      trivial

end Orderly

theorem GrantsSignals.of_eq {w w' : World} (h : w.GrantsSignals) (hfaults : w'.faults = w.faults) :
    w'.GrantsSignals := by
  intro n
  rw [hfaults]
  exact h n

/-- A change of the disposition that is granted is real. -/
theorem installed_of_grants {w : World} (h : w.GrantsSignals) (d : Disposition) :
    w.installed d = w.self.interrupts.record d := installed_of_granted (h _) d

end World

/-- From the prompt the computation takes orderly steps alone. -/
def Proc.IsOrderly (act : Proc α) : Prop :=
  ∀ w, w.self.interrupts.AtPrompt → w.GrantsSignals → World.Orderly w (act.run w).2

namespace Proc

open World

theorem isOrderly_pure (a : α) : IsOrderly (pure a : Proc α) := fun _ _ _ => .of_eq rfl rfl rfl

theorem IsOrderly.bind {x : Proc α} {f : α → Proc β} (hx : IsOrderly x)
    (hf : ∀ a, IsOrderly (f a)) : IsOrderly (x >>= f) := by
  intro w hprompt hgrants
  have h := hx w hprompt hgrants
  refine h.trans (hf _ _ ?_ (hgrants.of_eq h.faults))
  rw [h.interrupts]
  exact hprompt

theorem isOrderly_log (record : Log.Record) : IsOrderly (Proc.log record) := by
  intro w _ _
  rw [run_log]
  exact .noting w _

theorem isOrderly_closeEnds (readEnd writeEnd : Nat) :
    IsOrderly (Execution.closeEnds readEnd writeEnd) := fun _ _ _ => .of_eq rfl rfl rfl

theorem isOrderly_pipe : IsOrderly Proc.pipe := by
  intro w _ _
  rcases pipe_cases w with ⟨e, h⟩ | ⟨readEnd, writeEnd, -, h⟩
  · rw [h]
    refine ⟨rfl, rfl, [.piped (.error e)], rfl, fun event hevent => ?_⟩
    rw [List.mem_singleton.1 hevent]
    trivial
  · rw [h]
    refine ⟨rfl, rfl, [.piped (.ok (readEnd, writeEnd))], rfl, fun event hevent => ?_⟩
    rw [List.mem_singleton.1 hevent]
    trivial

theorem isOrderly_fork {args : List Text} {body : Proc Fate} (h : Execution.IsChild args body) :
    IsOrderly (Proc.fork body) := by
  intro w _ hgrants
  cases hrefusal : w.refusal .fork with
  | some e =>
    rw [run_fork_refused hrefusal]
    exact .of_eq rfl rfl rfl
  | none =>
    obtain ⟨w', hrun, hfork⟩ := forked_of_isChild hrefusal h
    rw [hrun]
    exact .of_forked hgrants hfork

/-- **Waits in a guard are orderly**: they ignore interrupts, and afterwards the handler of the
prompt is back. -/
theorem isOrderly_guarded {act : Proc α} (h : ∀ x, ∃ pids, Waited pids x (act.run x).2) :
    IsOrderly (Signals.guarded act) := by
  intro w hprompt hgrants
  obtain ⟨before, after, hrun⟩ := Signals.run_guarded act w
  rw [hrun, installed_of_grants hgrants, hprompt]
  let v := w.altered ⟨.ignoring, .ignore, .ignore⟩ before (.signalAction :: w.calls)
  obtain ⟨pids, hwait⟩ := h v
  obtain ⟨made, htrace, -, hmade⟩ := hwait.trace
  have hback : (act.run v).2.installed .interactive = ⟨.interactive, .handler, .ignore⟩ := by
    rw [installed_of_grants (hgrants.of_eq hwait.faults), hwait.self]
    rfl
  refine ⟨hwait.faults, ?_, made, htrace, fun e he => ?_⟩
  · show (act.run v).2.installed .interactive = _
    rw [hback, hprompt]
  · obtain ⟨pid, children, machine, rfl⟩ := hmade e he
    exact ⟨rfl, rfl⟩

end Proc

/-! ### Plans -/

namespace Execution

open Proc

theorem isOrderly_guardedWait (pid : Nat) : IsOrderly (Signals.guarded (waitFor pid)) :=
  isOrderly_guarded fun x => ⟨_, waited_waitFor pid x⟩

theorem isOrderly_guardedWaits (pid pid' : Nat) :
    IsOrderly (Signals.guarded do waitFor pid; waitFor pid') :=
  isOrderly_guarded fun x => ⟨_, (waited_waitFor pid x).trans (waited_waitFor pid' _)⟩

theorem isOrderly_runSimple (v : ArgVector) : IsOrderly (runSimple v) := by
  unfold runSimple
  cases argv v with
  | error e => exact isOrderly_pure _
  | ok args =>
    refine (isOrderly_fork (isChild_simpleChild args)).bind fun r => ?_
    cases r with
    | error e => exact isOrderly_pure _
    | ok pid =>
      exact (isOrderly_log _).bind fun _ => (isOrderly_guardedWait pid).bind fun _ =>
        isOrderly_pure _

theorem isOrderly_runRedirect (v : ArgVector) (target : Text) (mode : RedirectMode) :
    IsOrderly (runRedirect v target mode) := by
  unfold runRedirect
  cases argv v with
  | error e => exact isOrderly_pure _
  | ok args =>
    dsimp only
    cases withoutNul target with
    | error e => exact isOrderly_pure _
    | ok target =>
      refine (isOrderly_fork (isChild_redirectChild args target mode)).bind fun r => ?_
      cases r with
      | error e => exact isOrderly_pure _
      | ok pid =>
        exact (isOrderly_log _).bind fun _ => (isOrderly_guardedWait pid).bind fun _ =>
          isOrderly_pure _

theorem isOrderly_runStages (writer reader : List Text) (readEnd writeEnd : Nat) :
    IsOrderly (runStages writer reader readEnd writeEnd) := by
  refine (isOrderly_fork (isChild_writerChild writer readEnd writeEnd)).bind fun r => ?_
  cases r with
  | error e => exact (isOrderly_closeEnds _ _).bind fun _ => isOrderly_pure _
  | ok writerPid =>
    refine (isOrderly_fork (isChild_readerChild reader readEnd writeEnd)).bind fun r => ?_
    cases r with
    | error e =>
      exact (isOrderly_closeEnds _ _).bind fun _ => (isOrderly_guardedWait writerPid).bind fun _ =>
        isOrderly_pure _
    | ok readerPid =>
      exact (isOrderly_closeEnds _ _).bind fun _ => (isOrderly_log _).bind fun _ =>
        (isOrderly_guardedWaits writerPid readerPid).bind fun _ => isOrderly_pure _

theorem isOrderly_runPipeline (left right : ArgVector) : IsOrderly (runPipeline left right) := by
  unfold runPipeline
  cases argv left with
  | error e => exact isOrderly_pure _
  | ok writer =>
    dsimp only
    cases argv right with
    | error e => exact isOrderly_pure _
    | ok reader =>
      refine isOrderly_pipe.bind fun r => ?_
      cases r with
      | error e => exact isOrderly_pure _
      | ok ends => exact isOrderly_runStages writer reader ends.1 ends.2

end Execution

theorem Shell.isOrderly_runPlan (p : Plan) : Proc.IsOrderly (runPlan p) := by
  cases p with
  | simple args => exact Execution.isOrderly_runSimple args
  | pipeline left right => exact Execution.isOrderly_runPipeline left right
  | redirect args target mode => exact Execution.isOrderly_runRedirect args target mode

/-! ### Becoming a program -/

namespace Execution

open World

variable {v : ArgVector} {w w' : World}

theorem resetInterrupts_byDefault_started (hgrants : w.GrantsSignals) (words : List Text)
    (result : Except Errno Image) :
    Event.Disciplined (.started words { w.self with interrupts := w.resetInterrupts } result) :=
  Proc.resetInterrupts_byDefault hgrants

/-- A failed start takes up the interrupts of the prompt again. -/
theorem orderly_replaceImage_error {e : ShellError} (hprompt : w.self.interrupts.AtPrompt)
    (hgrants : w.GrantsSignals) (h : (replaceImage v).run w = (.error e, w')) : Orderly w w' := by
  have hcases := replacement_replaceImage v w
  rw [h] at hcases
  cases hcases with
  | unfit hargs => exact .of_eq rfl rfl rfl
  | @failed args hargs e made hmade records calls u hu hcalls =>
    have hfaults : u.faults = w.faults := by
      rw [hu]
      rfl
    have htrace : u.trace = made ++ w.trace := by rw [hu]
    refine ⟨hfaults, ?_, made, htrace, fun event hevent => ?_⟩
    · show ({ u.installed .interactive with sigpipe := .ignore } : Interrupts) = _
      rw [installed_of_grants (hgrants.of_eq hfaults), hprompt]
      rfl
    · obtain ⟨words, rfl⟩ := hmade event hevent
      exact resetInterrupts_byDefault_started hgrants words _

theorem disciplined_replaceImage (v : ArgVector) (hgrants : w.GrantsSignals) :
    Disciplined w ((replaceImage v).run w).2 := by
  have hcases := replacement_replaceImage v w
  generalize (replaceImage v).run w = r at hcases
  cases hcases with
  | unfit hargs => exact .of_eq rfl
  | @failed args hargs e made hmade records calls u hu hcalls =>
    subst hu
    refine ⟨made, rfl, fun event hevent => ?_⟩
    obtain ⟨words, rfl⟩ := hmade event hevent
    exact resetInterrupts_byDefault_started hgrants words _
  | @started args hargs image u hu =>
    let v := w.altered w.resetInterrupts [] (.signalAction :: w.calls)
    -- The start is the one event, and it is made with the actions reset.
    have htrace : u.trace = .started args v.self (.ok image) :: w.trace := by
      rw [Proc.run_exec] at hu
      rcases tryExec_cases args v with ⟨e, h⟩ | ⟨image', h⟩
      · rw [h] at hu
        cases hu
      · rw [h] at hu
        cases hu
        rfl
    refine ⟨[.started args v.self (.ok image)], htrace, fun event hevent => ?_⟩
    rw [List.mem_singleton.1 hevent]
    exact resetInterrupts_byDefault_started hgrants args _

end Execution

/-! ### Lines -/

namespace Shell

open World

variable {shell : Shell} {w : World} {line : Text} {out : (Except ShellError Flow × Shell) × World}

/-- From the prompt a line asks the machine with the right actions, and if it returns it was
orderly. -/
theorem Course.orderly (h : Course shell w line out) (hprompt : w.self.interrupts.AtPrompt)
    (hgrants : w.GrantsSignals) :
    Disciplined w out.2 ∧ (Returns out.1.1 → Orderly w out.2) := by
  -- Being orderly is more than being disciplined, so that it is enough wherever it holds.
  have hboth : Orderly w out.2 → Disciplined w out.2 ∧ (Returns out.1.1 → Orderly w out.2) :=
    fun h => ⟨h.disciplined, fun _ => h⟩
  cases h with
  | refused hplan records => exact hboth (.noting w records)
  | settled flow hflow records => exact hboth (.noting w records)
  | moved operand records after hcd hafter =>
    cases Builtin.move_of_cd hcd <;> exact hboth (.of_eq rfl rfl rfl)
  | helped records after =>
    rw [Proc.run_write] at hboth ⊢
    exact hboth (.of_eq rfl rfl rfl)
  | @became v records r w' h =>
    have hdisciplined : Disciplined w w' := by
      have hafter := Execution.disciplined_replaceImage (w := w.noting records) v hgrants
      rw [h] at hafter
      exact hafter
    refine ⟨hdisciplined, fun hreturns => ?_⟩
    cases r with
    -- The shell has been replaced, and does not return.
    | ok image => exact absurd rfl (hreturns image)
    | error e =>
      exact (Orderly.noting w records).trans
        (Execution.orderly_replaceImage_error hprompt hgrants h)
  | @ran p hp records r w' h =>
    have hafter := isOrderly_runPlan p (w.noting records) hprompt hgrants
    rw [h] at hafter
    exact hboth ((Orderly.noting w records).trans hafter)

end Shell

/-! ### Sessions -/

namespace Signals

open World

theorem finishPids_self (pids : List Nat) (w : World) :
    (pids.foldl finishPid w).self = w.self ∧ (pids.foldl finishPid w).faults = w.faults := by
  induction pids generalizing w with
  | nil => exact ⟨rfl, rfl⟩
  | cons pid pids ih =>
    obtain ⟨m, children, hfinish, -⟩ := finishPid_eq w pid
    rw [List.foldl_cons, hfinish]
    exact ih _

theorem run_poll (w : World) :
    (Proc.poll.run w).2.self = w.self ∧ (Proc.poll.run w).2.faults = w.faults := by
  let v : World := { (w.endings w.polls).foldl finishPid w with polls := w.polls + 1 }
  have hfinished : v.self = w.self ∧ v.faults = w.faults := finishPids_self _ w
  unfold Proc.poll
  rw [run_bind, run_modify, run_bind, run_get, run_bind, Proc.run_note]
  dsimp only
  split
  · exact hfinished
  · exact hfinished

/-- Taking away inherited children concerns neither the process nor what is granted to it. -/
theorem run_reapInherited (fuel : Nat) (w : World) :
    ((reapInherited fuel).run w).2.self = w.self ∧
      ((reapInherited fuel).run w).2.faults = w.faults := by
  induction fuel generalizing w with
  | zero => exact run_poll w
  | succ fuel ih =>
    have hpoll := run_poll w
    unfold reapInherited
    rw [run_bind]
    cases (Proc.poll.run w).1 with
    | none => exact hpoll
    | some pid =>
      dsimp only
      rw [run_bind, Proc.run_log]
      have hrest := ih ((Proc.poll.run w).2.noting
        [⟨.debug, source, Text.lit "reaped inherited child", [Log.Record.count "pid" pid]⟩])
      exact ⟨hrest.1.trans hpoll.1, hrest.2.trans hpoll.2⟩

/-- A startup that succeeds leaves the interrupts of the prompt. -/
theorem atPrompt_startup {w w' : World} (hgrants : w.GrantsSignals)
    (hpipe : w.self.interrupts.sigpipe = .ignore) (h : startup.run w = (.ok (), w')) :
    w'.self.interrupts.AtPrompt ∧ w'.GrantsSignals := by
  let v := w.altered (w.self.interrupts.record .ignoring)
    (changeRecords w.self.interrupts.recorded .ignoring) (.signalAction :: w.calls)
  let u := ((reapInherited v.children.length).run v).2
  have hreaped : u.self = v.self ∧ u.faults = v.faults := run_reapInherited _ v
  have hgrants' : u.GrantsSignals := hgrants.of_eq hreaped.2
  have hrun : startup.run w = (install .interactive).run u := by
    unfold startup
    rw [run_bind, run_install_granted (hgrants _)]
    rfl
  rw [hrun, run_install_granted (hgrants' _)] at h
  cases h
  refine ⟨?_, hgrants'⟩
  show u.self.interrupts.record .interactive = _
  rw [hreaped.1]
  show (⟨.interactive, .handler, w.self.interrupts.sigpipe⟩ : Interrupts) = _
  rw [hpipe]

end Signals

namespace Session

open World Shell

/-- The worlds between two lines, with the memory of the shell, in a session that starts in a
world: after a startup that succeeds, and after every line that returns. -/
inductive Between (start : World) : Shell → World → Prop
  | started {w : World} (shell : Shell) (h : Signals.startup.run start = (.ok (), w)) :
      Between start shell w
  | line {shell : Shell} {w : World} (h : Between start shell w) (line : Text)
      (hreturns : Returns (((Shell.exec line).start shell).run w).1.1) :
      Between start (((Shell.exec line).start shell).run w).1.2
        (((Shell.exec line).start shell).run w).2

variable {start : World}

theorem Between.atPrompt (hgrants : start.GrantsSignals)
    (hpipe : start.self.interrupts.sigpipe = .ignore) {shell : Shell} {w : World}
    (h : Between start shell w) : w.self.interrupts.AtPrompt ∧ w.GrantsSignals := by
  induction h with
  | started shell h => exact Signals.atPrompt_startup hgrants hpipe h
  | @line shell w h line hreturns ih =>
    have hafter := ((course_exec line shell w).orderly ih.1 ih.2).2 hreturns
    refine ⟨?_, ih.2.of_eq hafter.faults⟩
    rw [hafter.interrupts]
    exact ih.1

/-- **The discipline of signals holds through every session**, as long as changes of signal actions
are granted and the process began with broken pipes ignored: between two lines the handler of the
prompt is installed and recorded and broken pipes are ignored, whatever the lines came to; and all
that the next line asks of the machine is disciplined, even when the shell does not return. -/
theorem signals_between (hgrants : start.GrantsSignals)
    (hpipe : start.self.interrupts.sigpipe = .ignore) {shell : Shell} {w : World}
    (h : Between start shell w) :
    w.self.interrupts.AtPrompt ∧
      ∀ line, Disciplined w (((Shell.exec line).start shell).run w).2 := by
  obtain ⟨hprompt, hgrants⟩ := h.atPrompt hgrants hpipe
  exact ⟨hprompt, fun line => ((course_exec line shell w).orderly hprompt hgrants).1⟩

/-- After a pipeline of two programs that do not exist. -/
theorem signals_between_bare :
    let w := (Signals.startup.run World.bare).2
    let r := ((Shell.exec (Text.lit "a | b")).start ⟨[Path.slash], 2⟩).run w
    r.2.self.interrupts.AtPrompt ∧
      ∀ line, Disciplined r.2 (((Shell.exec line).start r.1.2).run r.2).2 := by
  have hstarted : Between World.bare ⟨[Path.slash], 2⟩ (Signals.startup.run World.bare).2 :=
    .started _ rfl
  have hproceeds : (((Shell.exec (Text.lit "a | b")).start ⟨[Path.slash], 2⟩).run
      (Signals.startup.run World.bare).2).1.1 = .ok .proceed := rfl
  refine signals_between (fun _ => rfl) rfl (hstarted.line (Text.lit "a | b") ?_)
  rw [hproceeds]
  exact returns_proceed

end Session

end LineShell
