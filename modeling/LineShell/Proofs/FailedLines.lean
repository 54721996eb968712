import LineShell.Proofs.Accounting
import LineShell.Proofs.SignalDiscipline
/-!
# Lines that fail

A line that fails in the shell leaves everything as it was: `World.Untouched` says that no process
was made, that files and outputs are those of a world in which only log records were written, and
that the process of the shell is the same. Its signal actions are so at the prompt, unless one of
the changes that the line makes of them is refused (`World.Kept`); then the line leaves others
behind (`Shell.exec_failed_refused`).

One failure has had an effect before: when the second fork of a pipeline is refused its first stage
has run. `Execution.runLost` is that effect, the first stage alone with nobody to read from it, and
`Proc.Blind` is why the refused fork makes no difference to it.

The headline is `Shell.exec_failed`.
-/

namespace LineShell

variable {α β : Type}

/-! ### What is left as it was -/

/-- The same files and outputs, with open descriptions and pipes from before in their places. -/
structure Machine.Grows (m m' : Machine) : Prop where
  tree : m'.tree = m.tree
  out : m'.out = m.out
  err : m'.err = m.err
  descriptions : m.descriptions <+: m'.descriptions
  pipes : m.pipes <+: m'.pipes

theorem Machine.Grows.refl (m : Machine) : Grows m m :=
  ⟨rfl, rfl, rfl, List.prefix_refl _, List.prefix_refl _⟩

theorem Machine.grows_withPipe (m : Machine) : Grows m m.withPipe := by
  refine ⟨rfl, rfl, rfl, ?_, List.prefix_append _ _⟩
  unfold withPipe
  rw [List.append_assoc]
  exact List.prefix_append _ _

/-- An attempt to start a program that failed, or to make a pipe. -/
def Event.IsQuiet : Event → Prop
  | .started _ _ (.error _) => True
  | .piped _ => True
  | _ => False

namespace World

/-- Between the two worlds a change of the interrupt action was refused. -/
def RefusesSignal (w w' : World) : Prop :=
  ∃ n e, w.calls.count .signalAction ≤ n ∧ n < w'.calls.count .signalAction ∧
    w.faults .signalAction n = some e

/-- The process of the shell is the same: a broken pipe is ignored as before, and at the prompt an
interrupt does what it did, unless a change of its action was refused. -/
structure Kept (w w' : World) : Prop where
  self : w'.self = { w.self with interrupts := w'.self.interrupts }
  sigpipe : w.self.interrupts.sigpipe = .ignore → w'.self.interrupts.sigpipe = .ignore
  interrupts : w.self.interrupts.AtPrompt → ¬w.RefusesSignal w' →
    w'.self.interrupts = w.self.interrupts

/-- **Nothing has happened** but log records: the process of the shell is the same, no process was
made or waited for, and no file was opened, written to or made. -/
structure Untouched (w w' : World) : Prop extends Kept w w' where
  children : w'.children = w.children
  nextPid : w'.nextPid = w.nextPid
  machine : ∃ records, (w.noting records).machine.Grows w'.machine
  trace : ∃ made, w'.trace = made ++ w.trace ∧ ∀ e ∈ made, e.IsQuiet

variable {w w' : World}

/-- The last of the changes was not refused, if none was. -/
theorem refusal_eq_none {u : World} (h : ¬w.RefusesSignal w')
    (hfaults : u.faults = w.faults) (hcalls : w.calls <:+ u.calls)
    (hlast : w'.calls = .signalAction :: u.calls) : u.refusal .signalAction = none := by
  rw [Option.eq_none_iff_forall_ne_some]
  intro e he
  refine h ⟨u.calls.count .signalAction, e, hcalls.sublist.count_le _, ?_, ?_⟩
  · rw [hlast, List.count_cons_self]
    exact Nat.lt_succ_self _
  · rw [← hfaults]
    exact he

theorem Kept.of_eq (h : w'.self = w.self) : Kept w w' :=
  ⟨by rw [h], fun hpipe => by rw [h, hpipe], fun _ _ => by rw [h]⟩

theorem Untouched.of_events (made : List Event) (hself : w'.self = w.self)
    (hchildren : w'.children = w.children) (hnext : w'.nextPid = w.nextPid)
    (hmachine : w.machine.Grows w'.machine) (htrace : w'.trace = made ++ w.trace)
    (hmade : ∀ e ∈ made, e.IsQuiet) : Untouched w w' :=
  ⟨.of_eq hself, hchildren, hnext, ⟨[], hmachine⟩, made, htrace, hmade⟩

/-- Counting calls touches nothing. -/
theorem Untouched.of_calls (w : World) (calls : List CallKind) :
    Untouched w { w with calls := calls } :=
  .of_events [] rfl rfl rfl (.refl _) rfl fun _ he => absurd he List.not_mem_nil

/-- Nor do log records before. -/
theorem Untouched.of_noting {records : List Log.Record} (h : Untouched (w.noting records) w') :
    Untouched w w' := by
  obtain ⟨more, hmachine⟩ := h.machine
  rw [noting_noting] at hmachine
  exact ⟨⟨h.self, h.sigpipe, h.interrupts⟩, h.children, h.nextPid, ⟨_, hmachine⟩, h.trace⟩

theorem untouched_noting (w : World) (records : List Log.Record) :
    Untouched w (w.noting records) :=
  (Untouched.of_calls (w.noting records) w.calls).of_noting

end World

/-! ### Not seeing a refused fork -/

/-- The same world but for the number of forks that were tried. -/
def World.ButForks (w w' : World) : Prop :=
  ∃ calls, w' = { w with calls := calls } ∧
    ∀ kind, kind ≠ .fork → calls.count kind = w.calls.count kind

theorem World.butForks_counting (w : World) : ButForks w (w.counting .fork) :=
  ⟨_, rfl, fun _ h => List.count_cons_of_ne (Ne.symm h)⟩

/-- The computation does the same, however many forks were tried before. -/
def Proc.Blind (act : Proc α) : Prop :=
  ∀ w w', World.ButForks w w' →
    (act.run w').1 = (act.run w).1 ∧ World.ButForks (act.run w).2 (act.run w').2

namespace Proc

open World

theorem blind_pure (a : α) : Blind (pure a : Proc α) := fun _ _ h => ⟨rfl, h⟩

theorem Blind.bind {x : Proc α} {f : α → Proc β} (hx : Blind x) (hf : ∀ a, Blind (f a)) :
    Blind (x >>= f) := by
  intro w w' h
  obtain ⟨heq, hafter⟩ := hx w w' h
  rw [run_bind, run_bind, heq]
  exact hf _ _ _ hafter

/-- Looking at the world is harmless where the calls are not looked at. -/
theorem blind_get_bind {f : World → Proc α} (hcalls : ∀ w calls, f { w with calls := calls } = f w)
    (hf : ∀ w, Blind (f w)) : Blind (get >>= f) := by
  intro w w' h
  obtain ⟨calls, rfl, hcount⟩ := h
  rw [run_bind, run_bind, run_get, run_get]
  dsimp only
  rw [hcalls]
  exact hf w _ _ ⟨calls, rfl, hcount⟩

theorem blind_modify {f : World → World} (h : ∀ w calls,
    f { w with calls := calls } = { f w with calls := calls }) (hcalls : ∀ w, (f w).calls = w.calls) :
    Blind (modify f : Proc PUnit) := by
  intro w w' hw
  obtain ⟨calls, rfl, hcount⟩ := hw
  refine ⟨rfl, calls, h w calls, fun kind hkind => ?_⟩
  rw [run_modify, hcalls]
  exact hcount kind hkind

theorem blind_call (act : Call α) : Blind (Proc.call act) := by
  intro w w' h
  obtain ⟨calls, rfl, hcount⟩ := h
  exact ⟨rfl, calls, rfl, hcount⟩

theorem Blind.attempt {kind : CallKind} (hkind : kind ≠ .fork) {act : Proc (Except Errno α)}
    (h : Blind act) : Blind (Proc.attempt kind act) := by
  intro w w' hw
  have hcounting : ButForks (w.counting kind) (w'.counting kind) := by
    obtain ⟨calls, rfl, hcount⟩ := hw
    refine ⟨kind :: calls, rfl, fun other hother => ?_⟩
    show (kind :: calls).count other = (kind :: w.calls).count other
    rw [List.count_cons, List.count_cons, hcount other hother]
  have hrefusal : w'.refusal kind = w.refusal kind := by
    obtain ⟨calls, rfl, hcount⟩ := hw
    show w.faults kind (calls.count kind) = w.faults kind (w.calls.count kind)
    rw [hcount kind hkind]
  cases hr : w.refusal kind with
  | some e =>
    rw [run_attempt_refused hr, run_attempt_refused (hrefusal.trans hr)]
    exact ⟨rfl, hcounting⟩
  | none =>
    rw [run_attempt_granted hr, run_attempt_granted (hrefusal.trans hr)]
    exact h _ _ hcounting

theorem blind_log (record : Log.Record) : Blind (Proc.log record) := by
  refine blind_get_bind (fun _ _ => rfl) fun w => ?_
  cases w.log with
  | none => exact blind_pure _
  | some sink =>
    dsimp only
    split
    · exact (blind_call _).bind fun _ => blind_pure _
    · exact blind_pure _

theorem blind_note (e : Event) : Blind (Proc.note e) := blind_modify (fun _ _ => rfl) fun _ => rfl

theorem finishPid_calls (w : World) (pid : Nat) (calls : List CallKind) :
    World.finishPid { w with calls := calls } pid = { w.finishPid pid with calls := calls } ∧
      (w.finishPid pid).calls = w.calls := by
  have hchild : World.child? { w with calls := calls } pid = w.child? pid := rfl
  unfold World.finishPid
  rw [hchild]
  cases w.child? pid with
  | none => exact ⟨rfl, rfl⟩
  | some c =>
    dsimp only
    unfold World.finish
    cases c.fate <;> exact ⟨rfl, rfl⟩

theorem blind_waitFor (pid : Nat) : Blind (Proc.waitFor pid) := by
  unfold Proc.waitFor
  refine blind_get_bind (fun _ _ => rfl) fun w => (blind_note _).bind fun _ => ?_
  refine Blind.bind (blind_modify (fun w calls => (finishPid_calls w pid calls).1)
    fun w => (finishPid_calls w pid w.calls).2) fun _ => ?_
  refine blind_get_bind (fun _ _ => rfl) fun w => ?_
  refine Blind.bind (blind_modify (fun _ _ => rfl) fun _ => rfl) fun _ => ?_
  refine Blind.attempt (by decide) ?_
  split <;> exact blind_pure _

end Proc

namespace Signals

open Proc

theorem blind_setAction (action : SignalAction) : Blind (setAction action) := by
  unfold setAction
  refine Blind.attempt (by decide) ?_
  exact Blind.bind (blind_modify (fun _ _ => rfl) fun _ => rfl) fun _ => blind_pure _

theorem blind_install (d : Disposition) : Blind (install d) := by
  refine (blind_setAction d.action).bind fun r => ?_
  cases r with
  | error e => exact blind_pure _
  | ok _ =>
    refine Blind.bind ?_ fun previous => ?_
    · exact blind_get_bind (fun _ _ => rfl) fun _ => blind_pure _
    refine Blind.bind (blind_modify (fun _ _ => rfl) fun _ => rfl) fun _ => ?_
    dsimp only
    split
    · exact (blind_log _).bind fun _ => blind_pure _
    · exact blind_pure _

theorem blind_installOrWarn (d : Disposition) : Blind (installOrWarn d) := by
  refine (blind_install d).bind fun r => ?_
  cases r with
  | ok _ => exact blind_pure _
  | error e => exact blind_log _

theorem blind_guarded {act : Proc α} (h : Blind act) : Blind (Signals.guarded act) := by
  refine Blind.bind ?_ fun g => h.bind fun a => (blind_installOrWarn g.previous).bind fun _ =>
    blind_pure _
  refine Blind.bind ?_ fun previous => (blind_installOrWarn _).bind fun _ => blind_pure _
  exact blind_get_bind (fun _ _ => rfl) fun _ => blind_pure _

end Signals

theorem Execution.blind_waitFor (pid : Nat) : Proc.Blind (Execution.waitFor pid) := by
  refine (Proc.blind_waitFor pid).bind fun r => ?_
  cases r <;> exact Proc.blind_log _

/-! ### Plans that fail -/

namespace Execution

open World

variable {w w' : World} {e : ShellError}

/-- Runs the first stage of a pipeline alone. Nobody reads what it writes. -/
def runLost (v : ArgVector) : Proc Unit := do
  match argv v with
  | .error _ => pure ()
  | .ok args =>
    match ← Proc.pipe with
    | .error _ => pure ()
    | .ok (readEnd, writeEnd) =>
      match ← Proc.fork (writerChild args readEnd writeEnd) with
      | .error _ => closeEnds readEnd writeEnd
      | .ok pid =>
        closeEnds readEnd writeEnd
        Signals.guarded (waitFor pid)

end Execution

/-- One child was made, for the first stage of a pipeline; its output is lost, and the process of
the shell is the same. -/
structure World.LostReader (left : ArgVector) (w w' : World) : Prop extends World.Kept w w' where
  nextPid : w'.nextPid = w.nextPid + 1
  effect : ∃ records calls, w' =
    { ((Execution.runLost left).run (w.noting records)).2 with calls := calls }

namespace Execution

open World

variable {w w' : World} {e : ShellError}

/-- Forking one child and waiting for it fails with the fork alone. -/
theorem untouched_forkOne {body : Proc Fate} {record : Nat → Log.Record}
    (h : (do
      match ← Proc.fork body with
      | .error e => return .error (.fork e)
      | .ok pid =>
        Proc.log (record pid)
        Signals.guarded (waitFor pid)
        return .ok () : Proc (Except ShellError Unit)).run w = (.error e, w')) :
    Untouched w w' := by
  rw [run_bind] at h
  cases hrefusal : w.refusal .fork with
  | some cause =>
    rw [Proc.run_fork_refused hrefusal] at h
    cases h
    exact .of_calls w _
  | none =>
    rw [Proc.run_fork_granted hrefusal] at h
    cases h

theorem untouched_runSimple {v : ArgVector} (h : (runSimple v).run w = (.error e, w')) :
    Untouched w w' := by
  unfold runSimple at h
  cases hargs : argv v with
  | error cause =>
    rw [hargs] at h
    cases h
    exact .of_calls w w.calls
  | ok args =>
    rw [hargs] at h
    exact untouched_forkOne h

theorem untouched_runRedirect {v : ArgVector} {target : Text} {mode : RedirectMode}
    (h : (runRedirect v target mode).run w = (.error e, w')) : Untouched w w' := by
  unfold runRedirect at h
  cases hargs : argv v with
  | error cause =>
    rw [hargs] at h
    cases h
    exact .of_calls w w.calls
  | ok args =>
    rw [hargs] at h
    dsimp only at h
    cases htarget : withoutNul target with
    | error cause =>
      rw [htarget] at h
      cases h
      exact .of_calls w w.calls
    | ok target =>
      rw [htarget] at h
      exact untouched_forkOne h

/-- A wait in a guard leaves the process of the shell as it was. -/
theorem kept_guardedWait (w : World) (pid : Nat) :
    Kept w ((Signals.guarded (waitFor pid)).run w).2 ∧
      w.calls <:+ ((Signals.guarded (waitFor pid)).run w).2.calls ∧
      ((Signals.guarded (waitFor pid)).run w).2.nextPid = w.nextPid := by
  obtain ⟨before, after, hrun⟩ := Signals.run_guarded (waitFor pid) w
  let v := w.altered (w.installed .ignoring) before (.signalAction :: w.calls)
  have hwait := waited_waitFor pid v
  have hcalls : w.calls <:+ ((waitFor pid).run v).2.calls :=
    (List.suffix_cons _ _).trans hwait.calls
  rw [hrun]
  refine ⟨⟨?_, fun hpipe => ?_, fun hprompt hgranted => ?_⟩, hcalls.trans (List.suffix_cons _ _),
    hwait.nextPid⟩
  · show ({ Context.self _ with interrupts := _ } : Process) = _
    rw [hwait.self]
    rfl
  · show (World.installed _ _).sigpipe = _
    rw [sigpipe_installed, hwait.self]
    exact (sigpipe_installed w _).trans hpipe
  -- Whatever became of the first change, the last one puts back what was recorded.
  · have hback := refusal_eq_none hgranted hwait.faults hcalls rfl
    have hpipe : ((waitFor pid).run v).2.self.interrupts.sigpipe = w.self.interrupts.sigpipe := by
      rw [hwait.self]
      exact sigpipe_installed w _
    show World.installed _ _ = _
    rw [installed_of_granted hback, Interrupts.record, hpipe, hprompt]
    rfl

/-- **With the second fork refused, the first stage has run alone**: the refused fork is not seen by
the wait. -/
theorem failed_runStages {left : ArgVector} {writer reader : List Text} {readEnd writeEnd : Nat}
    (hleft : argv left = .ok writer) (hfree : w.self.descriptors.FreeFor readEnd writeEnd)
    (hpipe : Proc.pipe.run w = (.ok (readEnd, writeEnd), w.withPipe readEnd writeEnd))
    (h : (runStages writer reader readEnd writeEnd).run (w.withPipe readEnd writeEnd) =
      (.error e, w')) :
    (∃ cause, e = .fork cause) ∧ (Untouched w w' ∨ LostReader left w w') := by
  let v := w.withPipe readEnd writeEnd
  have hcases := staging_runStages writer reader readEnd writeEnd v
  rw [h] at hcases
  cases hcases with
  | @unforked cause hfirst =>
    refine ⟨⟨cause, rfl⟩, .inl (.of_events [.piped (.ok (readEnd, writeEnd))] ?_ rfl rfl
      w.machine.grows_withPipe rfl fun event hevent => ?_)⟩
    · exact self_closing hfree rfl
    · rw [List.mem_singleton.1 hevent]
      trivial
  | @half cause u hrun hfork hsecond =>
    let x := u.closing readEnd writeEnd
    have hself : (x.counting .fork).self = w.self := self_closing hfree hfork.self
    obtain ⟨hkept, hgrow, hnext⟩ := kept_guardedWait (x.counting .fork) v.nextPid
    have hcalls : w.calls <:+ (x.counting .fork).calls :=
      ((List.suffix_cons _ _).trans hfork.calls).trans (List.suffix_cons _ _)
    have hlost : ((runLost left).run (w.noting [])).2 =
        ((Signals.guarded (waitFor v.nextPid)).run x).2 := by
      unfold runLost
      rw [noting_nil, hleft]
      dsimp only
      rw [run_bind, hpipe]
      dsimp only
      rw [run_bind, hrun]
      rfl
    obtain ⟨-, calls, hblind, -⟩ :=
      Signals.blind_guarded (blind_waitFor v.nextPid) x _ x.butForks_counting
    refine ⟨⟨cause, rfl⟩, .inr ⟨⟨?_, fun hpipe => ?_, fun hprompt hgranted => ?_⟩, ?_, [], calls, ?_⟩⟩
    · exact hkept.self.trans (by rw [hself]; rfl)
    · exact hkept.sigpipe (by rw [hself]; exact hpipe)
    -- What the wait was refused, the line was.
    · refine (hkept.interrupts (by rw [hself]; exact hprompt) ?_).trans (by rw [hself])
      rintro ⟨n, e, hle, hlt, hrefused⟩
      refine hgranted ⟨n, e, Nat.le_trans (hcalls.sublist.count_le _) hle, hlt, ?_⟩
      rw [← hrefused]
      exact congrFun (congrFun hfork.faults.symm _) n
    · exact hnext.trans hfork.nextPid
    · rw [hlost]
      exact hblind

theorem failed_runPipeline {left right : ArgVector}
    (h : (runPipeline left right).run w = (.error e, w')) :
    Untouched w w' ∨ (∃ cause, e = .fork cause) ∧ LostReader left w w' := by
  unfold runPipeline at h
  cases hleft : argv left with
  | error cause =>
    rw [hleft] at h
    cases h
    -- An argument with a NUL character is found before anything is asked of the system.
    exact .inl (.of_calls w w.calls)
  | ok writer =>
    rw [hleft] at h
    dsimp only at h
    cases hright : argv right with
    | error cause =>
      rw [hright] at h
      cases h
      exact .inl (.of_calls w w.calls)
    | ok reader =>
      rw [hright] at h
      dsimp only at h
      rw [run_bind] at h
      rcases Proc.pipe_cases w with ⟨cause, hpipe⟩ | ⟨readEnd, writeEnd, hfree, hpipe⟩
      · rw [hpipe] at h
        cases h
        -- The refused pipe is all that is left behind, in the trace.
        refine .inl (.of_events [.piped (.error cause)] rfl rfl rfl (.refl _) rfl fun event he => ?_)
        rw [List.mem_singleton.1 he]
        trivial
      · rw [hpipe] at h
        obtain ⟨hfork, huntouched | hlost⟩ := failed_runStages hleft hfree hpipe h
        · exact .inl huntouched
        · exact .inr ⟨hfork, hlost⟩

/-- A program that does not start in the place of the shell leaves everything as it was. -/
theorem untouched_replaceImage {v : ArgVector} (h : (replaceImage v).run w = (.error e, w')) :
    Untouched w w' := by
  have hcases := replacement_replaceImage v w
  rw [h] at hcases
  cases hcases with
  | unfit hargs => exact .of_calls w w.calls
  | @failed args hargs cause made hmade records calls u hu hcalls =>
    subst hu
    refine ⟨⟨rfl, fun _ => rfl, fun hprompt hgranted => ?_⟩, rfl, rfl, ⟨records, .refl _⟩, made, rfl,
      fun event hevent => ?_⟩
    · let u : World := { w.altered w.resetInterrupts [] calls with trace := made ++ w.trace }
      have hback : u.refusal .signalAction = none := refusal_eq_none hgranted rfl hcalls rfl
      show ({ u.installed .interactive with sigpipe := .ignore } : Interrupts) = _
      rw [installed_of_granted hback, hprompt]
      rfl
    · obtain ⟨words, rfl⟩ := hmade event hevent
      trivial

end Execution

/-! ### Lines that fail -/

theorem World.LostReader.of_noting {left : ArgVector} {w w' : World} {records : List Log.Record}
    (h : LostReader left (w.noting records) w') : LostReader left w w' := by
  obtain ⟨more, calls, heffect⟩ := h.effect
  rw [noting_noting] at heffect
  exact ⟨⟨h.self, h.sigpipe, h.interrupts⟩, h.nextPid, _, calls, heffect⟩

namespace ShellError

/-- Errors of a line that are found before anything has happened. -/
def IsEarly : ShellError → Prop
  | .missingOperand | .changeDir .. | .missingTarget _ | .emptyPipeStage | .nulByte _ | .pipe _
  | .execPermissionDenied _ | .execNotFound _ | .execFailed .. => True
  | .workingDir _ | .fork _ | .signal _ => False

end ShellError

namespace Shell

open World

variable {shell shell' : Shell} {w w' : World} {line : Text} {e : ShellError}

theorem failed_runPlan {p : Plan} (h : (runPlan p).run w = (.error e, w')) :
    Untouched w w' ∨
      ∃ left right, p = .pipeline left right ∧ (∃ cause, e = .fork cause) ∧ LostReader left w w' := by
  cases p with
  | simple args => exact .inl (Execution.untouched_runSimple h)
  | redirect args target mode => exact .inl (Execution.untouched_runRedirect h)
  | pipeline left right =>
    rcases Execution.failed_runPipeline h with huntouched | ⟨hfork, hlost⟩
    · exact .inl huntouched
    · exact .inr ⟨left, right, rfl, hfork, hlost⟩

/-- **A line that fails leaves everything as it was**: the memory of the shell, and the world but for
log records and for the interrupt action where a change of it was refused. There are two exceptions.
A move to a directory that has no path has moved; and if the plan was a pipeline the second fork of
which was refused, its first stage has run alone. -/
theorem exec_failed (h : ((exec line).start shell).run w = ((.error e, shell'), w')) :
    (e.IsEarly → shell' = shell ∧ Untouched w w') ∧
      ∀ cause, e = .fork cause → shell' = shell ∧ (Untouched w w' ∨
        ∃ left right, (planned shell w line).outcome = .ok (some (.pipeline left right)) ∧
          LostReader left w w') := by
  have hcourse := course_exec line shell w
  rw [h] at hcourse
  -- Whatever the error, an untouched world is enough for both parts.
  have huntouched : Untouched w w' → shell' = shell →
      (e.IsEarly → shell' = shell ∧ Untouched w w') ∧
      ∀ cause, e = .fork cause → shell' = shell ∧ (Untouched w w' ∨
        ∃ left right, (planned shell w line).outcome = .ok (some (.pipeline left right)) ∧
          LostReader left w w') :=
    fun hw hshell => ⟨fun _ => ⟨hshell, hw⟩, fun _ _ => ⟨hshell, .inl hw⟩⟩
  generalize hout : ((Except.error e, shell'), w') = out at hcourse
  cases hcourse with
  | refused hplan records =>
    cases hout
    exact huntouched (untouched_noting w records) rfl
  | settled flow hflow records => cases hout
  | @moved operand records after r moved u hcd hafter =>
    cases r with
    | ok _ => cases hout
    | error cause =>
      cases hout
      obtain rfl := hafter e rfl
      cases Builtin.move_of_cd hcd with
      | refused hcause calls => exact huntouched (Untouched.of_calls _ calls).of_noting rfl
      -- The move that has moved without a path is not among the early errors.
      | lost cause directory calls => exact ⟨fun hearly => hearly.elim, fun _ he => nomatch he⟩
  | helped records after => cases hout
  | @became v records r u hreplace =>
    cases r with
    | ok image => cases hout
    | error cause =>
      cases hout
      exact huntouched (Execution.untouched_replaceImage (w := w.noting records)
        hreplace).of_noting rfl
  | @ran p hp records r u hrun =>
    cases r with
    | ok _ => cases hout
    | error cause =>
      cases hout
      rcases failed_runPlan (w := w.noting records) hrun with
        hw | ⟨left, right, rfl, ⟨cause, rfl⟩, hlost⟩
      · exact huntouched hw.of_noting rfl
      · exact ⟨fun hearly => hearly.elim, fun _ _ =>
          ⟨rfl, .inr ⟨left, right, hp, hlost.of_noting⟩⟩⟩

/-- A program that does not exist, and a pipeline that can make only one process. -/
theorem exec_failed_crowded :
    let w := (Signals.startup.run crowded).2
    let r := fun line => ((exec (Text.lit line)).start ⟨[Path.slash], 2⟩).run w
    Untouched w (r "exec a").2 ∧
      (Untouched w (r "a | b").2 ∨ ∃ left right,
        (planned ⟨[Path.slash], 2⟩ w (Text.lit "a | b")).outcome =
          .ok (some (.pipeline left right)) ∧ LostReader left w (r "a | b").2) := by
  have hearly : ((exec (Text.lit "exec a")).start ⟨[Path.slash], 2⟩).run
      (Signals.startup.run crowded).2 = ((.error (.execNotFound ['a']), ⟨[Path.slash], 2⟩), _) := rfl
  have hfork : ((exec (Text.lit "a | b")).start ⟨[Path.slash], 2⟩).run
      (Signals.startup.run crowded).2 = ((.error (.fork .tryAgain), ⟨[Path.slash], 2⟩), _) := rfl
  exact ⟨((exec_failed hearly).1 trivial).2, ((exec_failed hfork).2 _ rfl).2⟩

/-- The first world, where warnings go to the error output and the fourth change of the interrupt
action is refused. -/
def stubborn : World :=
  { World.bare with
    faults := fun kind n => if kind = .signalAction ∧ n = 3 then some .notPermitted else none
    log := some ⟨.upTo .warn, Execution.stderr, Text.lit "2025-01-01T00:00:00.000000Z"⟩ }

/-- A session begins, and a program with an argument too many does not start: the line warns of the
argument, and the handler of the prompt cannot be taken up again. -/
theorem exec_failed_refused :
    let started := Signals.startup.run stubborn
    let r := ((exec (Text.lit "exec a b")).start ⟨[Path.slash], 2⟩).run started.2
    started.1 = .ok () ∧ r.1.1 = .error (.execNotFound ['a']) ∧
      started.2.self.interrupts.sigint = .handler ∧ r.2.self.interrupts.sigint = .default ∧
      r.2.machine.err ≠ started.2.machine.err := by
  intro started r
  have herr : started.2.machine.err = [] := by decide +kernel
  have hwarned : r.2.machine.err ≠ [] := by decide +kernel
  exact ⟨rfl, rfl, rfl, rfl, fun h => hwarned (h.trans herr)⟩

end Shell

end LineShell
