import LineShell.Proofs.SignalSteps
/-!
# Children

What forking a child and waiting for it do to the world of the parent.

* `World.ChildSteps` is what a child may do before its program runs: it opens and starts, but forks
  and waits for nothing, and it keeps default signal actions. All four kinds of children take such
  steps (`isChild_simpleChild` and the others).
* `World.Forked` and `World.Waited` say what a fork and a run of waits leave to the parent, with the
  events that they add to the trace.
-/

namespace LineShell

variable {α β : Type}

/-! ### Events -/

/-- A process finds a program by the first argument, and hands it all of them byte for byte. -/
def Process.Finds (caller : Process) (args : List Text) (image : Image) : Prop :=
  ∃ name m, args.head? = some name ∧
    Exec.find ⟨caller, m⟩ name.bytes (args.map Text.bytes) = .ok image

/-- Interrupts and broken pipes do what they do by default. -/
def Interrupts.ByDefault (i : Interrupts) : Prop := i.sigint = .default ∧ i.sigpipe = .default

theorem Interrupts.ByDefault.atExec {i : Interrupts} (h : i.ByDefault) : i.atExec.ByDefault := by
  obtain ⟨hint, hpipe⟩ := h
  unfold Interrupts.atExec Interrupts.ByDefault
  rw [hint, hpipe]
  exact ⟨rfl, rfl⟩

namespace Event

/-- The number of a child that was made. -/
def forked? : Event → Option Nat
  | .forked pid => some pid
  | _ => none

/-- The number of a child that was waited for. -/
def waited? : Event → Option Nat
  | .waited pid _ _ _ => some pid
  | _ => none

/-- Whether a child with a number and arguments causes such events: it opens files and starts its
program. -/
def OfChild (pid : Nat) (args : List Text) : Event → Prop
  | .started words caller result => (words = args ∧ caller.pid = pid) ∧ args ≠ [] ∧
    ∀ image, result = .ok image → caller.Finds args image
  | .opened .. => True
  | _ => False

/-- Whether a start of a program finds the signal actions at their defaults. -/
def StartsByDefault : Event → Prop
  | .started _ caller _ => caller.interrupts.ByDefault
  | _ => True

variable {pid : Nat} {args : List Text} {e : Event}

theorem OfChild.forked?_eq_none (h : e.OfChild pid args) : e.forked? = none := by
  cases e <;> first | rfl | exact h.elim

theorem OfChild.waited?_eq_none (h : e.OfChild pid args) : e.waited? = none := by
  cases e <;> first | rfl | exact h.elim

end Event

/-! ### Calls on open numbers -/

/-- The call replaces nothing but the open numbers and the machine. -/
def Call.OnDescriptors (act : Call α) : Prop :=
  ∀ c, ∃ t m, (act.run c).2 = { self := { c.self with descriptors := t }, machine := m }

namespace Call

theorem onDescriptors_pure (a : α) : OnDescriptors (pure a : Call α) := fun _ => ⟨_, _, rfl⟩

theorem OnDescriptors.bind {x : Call α} {f : α → Call β} (hx : OnDescriptors x)
    (hf : ∀ a, OnDescriptors (f a)) : OnDescriptors (x >>= f) := by
  intro c
  obtain ⟨t, m, h⟩ := hx c
  obtain ⟨t', m', h'⟩ := hf (x.run c).1 (x.run c).2
  refine ⟨t', m', ?_⟩
  rw [run_bind, h', h]

theorem onDescriptors_allocate (d : Nat) (closeOnExec : Bool) :
    OnDescriptors (allocate d closeOnExec) := by
  intro c
  unfold allocate
  rw [run_bind, run_get]
  dsimp only
  split
  · exact ⟨_, _, rfl⟩
  · exact ⟨_, _, rfl⟩

theorem onDescriptors_close (fd : Nat) : OnDescriptors (close fd) := fun _ => ⟨_, _, rfl⟩

theorem onDescriptors_handle? (fd : Nat) : OnDescriptors (handle? fd) := fun _ => ⟨_, _, rfl⟩

theorem onDescriptors_duplicate (fd : Nat) (closeOnExec : Bool) :
    OnDescriptors (duplicate fd closeOnExec) := by
  refine (onDescriptors_handle? fd).bind fun h => ?_
  cases h with
  | none => exact onDescriptors_pure _
  | some h => exact onDescriptors_allocate _ _

theorem onDescriptors_duplicateTo (fd target : Nat) : OnDescriptors (duplicateTo fd target) := by
  refine (onDescriptors_handle? fd).bind fun h => ?_
  cases h with
  | none => exact onDescriptors_pure _
  | some h =>
    dsimp only
    split
    · exact onDescriptors_pure _
    · exact fun _ => ⟨_, _, rfl⟩

theorem onDescriptors_openFile (path : Bytes) (mode : OpenMode) :
    OnDescriptors (openFile path mode) := by
  intro c
  unfold openFile
  rw [run_bind, run_get]
  dsimp only
  split
  · exact ⟨_, _, rfl⟩
  · cases openPath c path mode with
    | error e => exact ⟨_, _, rfl⟩
    | ok r =>
      dsimp only
      rw [run_bind]
      obtain ⟨t, m, h⟩ := onDescriptors_allocate _ mode.closeOnExec { c with machine :=
        (({ c.machine with tree := r.1 } : Machine).addDescription
          ⟨r.2, 0, mode.append, mode.readable, mode.writable⟩).1 }
      exact ⟨t, m, h⟩

end Call

/-! ### What a child does before its program runs -/

namespace World

/-- What a child with these arguments may do to the world before its program runs. -/
structure ChildSteps (args : List Text) (w w' : World) : Prop where
  children : w'.children = w.children
  nextPid : w'.nextPid = w.nextPid
  pid : w'.self.pid = w.self.pid
  faults : w'.faults = w.faults
  calls : w.calls <:+ w'.calls
  /-- It does not even ask for a fork. -/
  forks : w'.calls.count .fork = w.calls.count .fork
  byDefault : w.self.interrupts.ByDefault → w'.self.interrupts.ByDefault
  trace : ∃ made, w'.trace = made ++ w.trace ∧
    ∀ e ∈ made, e.OfChild w.self.pid args ∧ (w.self.interrupts.ByDefault → e.StartsByDefault)

namespace ChildSteps

variable {args : List Text}

theorem refl (w : World) : ChildSteps args w w :=
  ⟨rfl, rfl, rfl, rfl, List.suffix_rfl, rfl, id, [], rfl, fun _ he => absurd he List.not_mem_nil⟩

theorem trans {u v w : World} (h : ChildSteps args u v) (h' : ChildSteps args v w) :
    ChildSteps args u w := by
  obtain ⟨made, htrace, hmade⟩ := h.trace
  obtain ⟨made', htrace', hmade'⟩ := h'.trace
  refine ⟨h'.children.trans h.children, h'.nextPid.trans h.nextPid, h'.pid.trans h.pid,
    h'.faults.trans h.faults, h.calls.trans h'.calls, h'.forks.trans h.forks,
    h'.byDefault ∘ h.byDefault, made' ++ made, ?_, ?_⟩
  · rw [htrace', htrace, List.append_assoc]
  · intro e he
    rcases List.mem_append.1 he with he | he
    · exact ⟨h.pid ▸ (hmade' e he).1, (hmade' e he).2 ∘ h.byDefault⟩
    · exact hmade e he

/-- A step that replaces nothing but open numbers and machine. -/
theorem of_descriptors (w : World) (t : DescriptorTable) (m : Machine) :
    ChildSteps args w { w with self := { w.self with descriptors := t }, machine := m } :=
  ⟨rfl, rfl, rfl, rfl, List.suffix_rfl, rfl, id, [], rfl, fun _ he => absurd he List.not_mem_nil⟩

theorem counting (w : World) {kind : CallKind} (h : kind ≠ .fork) :
    ChildSteps args w (w.counting kind) :=
  ⟨rfl, rfl, rfl, rfl, List.suffix_cons _ _, List.count_cons_of_ne h, id, [], rfl,
    fun _ he => absurd he List.not_mem_nil⟩

theorem note {w : World} {e : Event} (h : e.OfChild w.self.pid args)
    (hd : w.self.interrupts.ByDefault → e.StartsByDefault) :
    ChildSteps args w { w with trace := e :: w.trace } := by
  refine ⟨rfl, rfl, rfl, rfl, List.suffix_rfl, rfl, id, [e], rfl, ?_⟩
  intro e' he
  rw [List.mem_singleton.1 he]
  exact ⟨h, hd⟩

end ChildSteps

end World

/-- The computation takes no more than the steps of a child with these arguments. -/
def Proc.ByChild (args : List Text) (act : Proc α) : Prop :=
  ∀ w, World.ChildSteps args w (act.run w).2

namespace Proc

variable {args : List Text}

theorem byChild_pure (a : α) : ByChild args (pure a : Proc α) := fun w => .refl w

theorem ByChild.bind {x : Proc α} {f : α → Proc β} (hx : ByChild args x)
    (hf : ∀ a, ByChild args (f a)) : ByChild args (x >>= f) := fun w => (hx w).trans (hf _ _)

theorem byChild_call {act : Call α} (h : act.OnDescriptors) : ByChild args (Proc.call act) := by
  intro w
  obtain ⟨t, m, hrun⟩ := h w.toContext
  rw [run_call, hrun]
  exact .of_descriptors w t m

theorem ByChild.attempt {kind : CallKind} (hkind : kind ≠ .fork) {act : Proc (Except Errno α)}
    (h : ByChild args act) : ByChild args (Proc.attempt kind act) := by
  intro w
  cases hr : w.refusal kind with
  | none =>
    rw [run_attempt_granted hr]
    exact (World.ChildSteps.counting w hkind).trans (h _)
  | some e =>
    rw [run_attempt_refused hr]
    exact .counting w hkind

theorem byChild_write (fd : Nat) (text : Text) : ByChild args (Proc.write fd text) := by
  intro w
  rw [run_write]
  exact .of_descriptors w _ _

theorem byChild_close (fd : Nat) : ByChild args (Proc.close fd) :=
  byChild_call (Call.onDescriptors_close fd)

theorem byChild_duplicateTo (fd target : Nat) : ByChild args (Proc.duplicateTo fd target) :=
  (byChild_call (Call.onDescriptors_duplicateTo fd target)).bind fun _ => byChild_pure _

theorem byChild_duplicate (fd : Nat) (closeOnExec : Bool) :
    ByChild args (Proc.duplicate fd closeOnExec) :=
  (byChild_call (Call.onDescriptors_duplicate fd closeOnExec)).attempt (by decide)

theorem byChild_openFile (path : Bytes) (mode : OpenMode) :
    ByChild args (Proc.openFile path mode) := by
  refine ((byChild_call (Call.onDescriptors_openFile path mode)).attempt (by decide)).bind fun r => ?_
  refine ByChild.bind (fun w => ?_) fun _ => byChild_pure _
  exact .note trivial fun _ => trivial

/-- Starting a program keeps default actions, since a handler gives way to the default. -/
theorem childSteps_enter (w : World) :
    World.ChildSteps args w { w with self := Exec.enter w.self } :=
  ⟨rfl, rfl, rfl, rfl, List.suffix_rfl, rfl, Interrupts.ByDefault.atExec, [], rfl,
    fun _ he => absurd he List.not_mem_nil⟩

/-- The start itself, before it is noted. -/
def tryExec (argv : List Text) : Proc (Except Errno Image) :=
  Proc.attempt .exec (Proc.call (Call.exec ((argv.map Text.bytes).head?.getD [])
    (argv.map Text.bytes)))

/-- The event of a start shows the process as it was before. -/
theorem run_exec (argv : List Text) (w : World) :
    (Proc.exec argv).run w =
      let r := (tryExec argv).run w
      (r.1, { r.2 with trace := .started argv w.self r.1 :: r.2.trace }) := rfl

theorem byChild_tryExec (argv : List Text) : ByChild args (tryExec argv) := by
  refine ByChild.attempt (by decide) fun w => ?_
  rw [run_call]
  unfold Call.exec
  rw [run_bind, run_get]
  dsimp only
  cases Exec.find w.toContext _ (argv.map Text.bytes) with
  | error e => exact .refl w
  | ok image => exact childSteps_enter w

theorem answer_exec (name : Bytes) (argv : List Bytes) (c : Context) :
    ((Call.exec name argv).run c).1 = Exec.find c name argv := by
  unfold Call.exec
  rw [run_bind, run_get]
  dsimp only
  cases Exec.find c name argv <;> rfl

/-- A start that is granted is one of a program that the process finds. -/
theorem finds_of_tryExec {args : List Text} (hne : args ≠ []) {w : World} {image : Image}
    (h : ((tryExec args).run w).1 = .ok image) : w.self.Finds args image := by
  obtain ⟨name, rest, rfl⟩ := List.exists_cons_of_ne_nil hne
  refine ⟨name, w.machine, rfl, ?_⟩
  unfold tryExec at h
  cases hr : w.refusal .exec with
  | some e =>
    rw [run_attempt_refused hr] at h
    cases h
  | none =>
    rw [run_attempt_granted hr, run_call] at h
    exact (answer_exec _ _ _).symm.trans h

theorem byChild_exec {args : List Text} (hne : args ≠ []) : ByChild args (Proc.exec args) := by
  intro w
  have htry : World.ChildSteps args w ((tryExec args).run w).2 := byChild_tryExec args w
  obtain ⟨made, htrace, hmade⟩ := htry.trace
  rw [run_exec]
  refine ⟨htry.children, htry.nextPid, htry.pid, htry.faults, htry.calls, htry.forks,
    htry.byDefault, .started args w.self ((tryExec args).run w).1 :: made, ?_, ?_⟩
  · show _ :: _ = _
    rw [htrace]
    rfl
  · intro e he
    rcases List.mem_cons.1 he with rfl | he
    · exact ⟨⟨⟨rfl, rfl⟩, hne, fun _ => finds_of_tryExec hne⟩, id⟩
    · exact hmade e he

end Proc

namespace Execution

open Proc

variable {args : List Text}

theorem byChild_report (message : Text) : ByChild args (report message) :=
  (byChild_write stdout message).bind fun _ => byChild_pure _

theorem byChild_saveOutput : ByChild args saveOutput := by
  refine (byChild_duplicate stdout true).bind fun r => ?_
  cases r <;> exact byChild_pure _

theorem byChild_restoreOutput (saved : Option Nat) : ByChild args (restoreOutput saved) := by
  cases saved with
  | none => exact byChild_pure _
  | some fd => exact (byChild_duplicateTo fd stdout).bind fun _ => byChild_close fd

theorem byChild_start (args : List Text) : ByChild args (start args) := by
  unfold start
  split
  · exact byChild_pure _
  · rename_i hempty
    exact byChild_exec (by simpa using hempty)

theorem byChild_startOr (args : List Text) {recover : Proc Unit} (h : ByChild args recover)
    (diagnostic : Text) : ByChild args (startOr args recover diagnostic) := by
  refine (byChild_start args).bind fun r => ?_
  cases r with
  | ok image => exact byChild_pure _
  | error e => exact h.bind fun _ => byChild_report diagnostic

/-- The computation resets the signal actions first and then takes no more than the steps of a
child with these arguments. -/
def IsChild (args : List Text) (act : Proc Fate) : Prop :=
  ∃ rest, act = (do Signals.resetForChild; rest) ∧ ByChild args rest

theorem isChild_simpleChild (args : List Text) : IsChild args (simpleChild args) :=
  ⟨_, rfl, byChild_startOr args (byChild_pure _) _⟩

theorem isChild_writerChild (args : List Text) (readEnd writeEnd : Nat) :
    IsChild args (writerChild args readEnd writeEnd) := by
  refine ⟨_, rfl, (byChild_close readEnd).bind fun _ => byChild_saveOutput.bind fun saved => ?_⟩
  refine (byChild_duplicateTo writeEnd stdout).bind fun _ => (byChild_close writeEnd).bind fun _ => ?_
  exact byChild_startOr args (byChild_restoreOutput saved) _

theorem isChild_readerChild (args : List Text) (readEnd writeEnd : Nat) :
    IsChild args (readerChild args readEnd writeEnd) := by
  refine ⟨_, rfl, (byChild_close writeEnd).bind fun _ => ?_⟩
  refine (byChild_duplicateTo readEnd stdin).bind fun _ => (byChild_close readEnd).bind fun _ => ?_
  exact byChild_startOr args (byChild_pure _) _

theorem isChild_redirectChild (args : List Text) (target : Text) (mode : RedirectMode) :
    IsChild args (redirectChild args target mode) := by
  refine ⟨_, rfl, byChild_saveOutput.bind fun saved => (byChild_openFile _ _).bind fun r => ?_⟩
  cases r with
  | error e => exact byChild_report _
  | ok fd =>
    refine (byChild_duplicateTo fd stdout).bind fun _ => (byChild_close fd).bind fun _ => ?_
    exact byChild_startOr args (byChild_restoreOutput saved) _

end Execution

/-! ### Forking -/

namespace World

/-- Every change of a signal action is granted. -/
def GrantsSignals (w : World) : Prop := ∀ n, w.faults .signalAction n = none

/-- The world as a new child finds it. -/
def asChild (w : World) : World :=
  { w with
    self := { w.self with pid := w.nextPid, parent := w.self.pid }
    nextPid := w.nextPid + 1
    calls := .fork :: w.calls
    trace := .forked w.nextPid :: w.trace }

/-- What a fork of a child with these arguments leaves to the parent: one child more, with a number
of its own. -/
structure Forked (args : List Text) (w w' : World) : Prop where
  self : w'.self = w.self
  nextPid : w'.nextPid = w.nextPid + 1
  faults : w'.faults = w.faults
  calls : w.calls <:+ w'.calls
  forks : w'.calls.count .fork = w.calls.count .fork + 1
  children : ∃ child : Child, child.process.pid = w.nextPid ∧ w'.children = w.children ++ [child]
  trace : ∃ made, w'.trace = made ++ .forked w.nextPid :: w.trace ∧
    ∀ e ∈ made, e.OfChild w.nextPid args ∧ (w.GrantsSignals → e.StartsByDefault)

end World

namespace Proc

theorem run_fork_refused {w : World} {e : Errno} (h : w.refusal .fork = some e)
    (body : Proc Fate) : (Proc.fork body).run w = (.error e, w.counting .fork) :=
  run_attempt_refused h _

theorem run_fork_granted {w : World} (h : w.refusal .fork = none) (body : Proc Fate) :
    (Proc.fork body).run w =
      let r := body.run w.asChild
      (.ok w.nextPid, { r.2 with self := w.self, children := r.2.children ++ [⟨r.2.self, r.1⟩] }) :=
  run_attempt_granted h _

theorem resetInterrupts_byDefault {w : World} (h : w.GrantsSignals) :
    w.resetInterrupts.ByDefault := by
  unfold World.resetInterrupts World.refusal
  rw [h]
  exact ⟨rfl, rfl⟩

/-- **A granted fork** runs the child up to its program and leaves the parent as it was. -/
theorem forked_of_isChild {w : World} (h : w.refusal .fork = none) {args : List Text}
    {body : Proc Fate} (hbody : Execution.IsChild args body) :
    ∃ w', (Proc.fork body).run w = (.ok w.nextPid, w') ∧ w.Forked args w' := by
  obtain ⟨rest, rfl, hrest⟩ := hbody
  let v := w.asChild.altered w.asChild.resetInterrupts [] (.signalAction :: w.asChild.calls)
  have hsteps : World.ChildSteps args v (rest.run v).2 := hrest v
  obtain ⟨made, htrace, hmade⟩ := hsteps.trace
  have hforks : v.calls.count .fork = w.calls.count .fork + 1 := by
    show List.count .fork (.signalAction :: .fork :: w.calls) = _
    rw [List.count_cons_of_ne (by decide), List.count_cons_self]
  -- The fork itself and the reset are counted before the steps of the child.
  have hcalls : w.calls <:+ v.calls := (List.suffix_cons _ _).trans (List.suffix_cons _ _)
  rw [run_fork_granted h, run_bind, Signals.run_resetForChild]
  refine ⟨_, rfl, rfl, hsteps.nextPid, hsteps.faults, hcalls.trans hsteps.calls,
    hsteps.forks.trans hforks,
    ⟨⟨(rest.run v).2.self, (rest.run v).1⟩, hsteps.pid, ?_⟩, made, htrace, ?_⟩
  · show _ ++ _ = _
    rw [hsteps.children]
    rfl
  · intro e he
    refine ⟨(hmade e he).1, fun hsignals => (hmade e he).2 ?_⟩
    exact resetInterrupts_byDefault (w := w.asChild) hsignals

end Proc

/-! ### Waiting -/

namespace World

/-- What waits for children leave to the parent: the children are gone, the others are as before,
and each wait is in the trace, in order, with the parent as it was. -/
structure Waited (pids : List Nat) (w w' : World) : Prop where
  self : w'.self = w.self
  nextPid : w'.nextPid = w.nextPid
  faults : w'.faults = w.faults
  calls : w.calls <:+ w'.calls
  children : w'.children = w.children.filter (fun c => c.process.pid ∉ pids)
  trace : ∃ made, w'.trace = made ++ w.trace ∧ made.filterMap Event.waited? = pids.reverse ∧
    ∀ e ∈ made, ∃ pid children machine, e = .waited pid w.self children machine

/-- The world in which a wait has been noted, and nothing more has happened. -/
def awaiting (w : World) (pid : Nat) : World :=
  { w with trace := .waited pid w.self w.children w.withReaders :: w.trace }

theorem Waited.refl (w : World) : Waited [] w w :=
  ⟨rfl, rfl, rfl, List.suffix_rfl, (List.filter_eq_self.2 fun _ _ => by simp).symm, [], rfl, rfl,
    fun _ he => absurd he List.not_mem_nil⟩

theorem Waited.trans {pids pids' : List Nat} {u v w : World} (h : Waited pids u v)
    (h' : Waited pids' v w) : Waited (pids ++ pids') u w := by
  obtain ⟨made, htrace, hwaited, hmade⟩ := h.trace
  obtain ⟨made', htrace', hwaited', hmade'⟩ := h'.trace
  refine ⟨h'.self.trans h.self, h'.nextPid.trans h.nextPid, h'.faults.trans h.faults,
    h.calls.trans h'.calls, ?_, made' ++ made, ?_, ?_, ?_⟩
  · rw [h'.children, h.children, List.filter_filter]
    refine List.filter_congr fun c _ => ?_
    simp only [List.mem_append, not_or, Bool.decide_and]
    exact Bool.and_comm _ _
  · rw [htrace', htrace, List.append_assoc]
  · rw [List.filterMap_append, hwaited, hwaited', List.reverse_append]
  · intro e he
    rcases List.mem_append.1 he with he | he
    · obtain ⟨pid, children, machine, rfl⟩ := hmade' e he
      exact ⟨pid, children, machine, by rw [h.self]⟩
    · exact hmade e he

theorem Waited.noting {pids : List Nat} {w w' : World} (h : Waited pids w w')
    (records : List Log.Record) : Waited pids w (w'.noting records) :=
  ⟨h.self, h.nextPid, h.faults, h.calls, h.children, h.trace⟩

theorem finish_pid (w : World) (c : Child) : (w.finish c).2.process.pid = c.process.pid := by
  unfold finish
  cases c.fate <;> rfl

theorem finish_eq (w : World) (c : Child) : ∃ m, (w.finish c).1 = { w with machine := m } := by
  unfold finish
  cases c.fate with
  | running image => exact ⟨_, rfl⟩
  | ended status => exact ⟨_, rfl⟩

/-- Letting a child run to its end concerns no other child. -/
theorem finishPid_eq (w : World) (pid : Nat) :
    ∃ m children, w.finishPid pid = { w with machine := m, children := children } ∧
      children.filter (fun c => c.process.pid != pid) =
        w.children.filter (fun c => c.process.pid != pid) := by
  unfold finishPid
  cases hc : w.child? pid with
  | none => exact ⟨_, _, rfl, rfl⟩
  | some c =>
    have hpid : (w.finish c).2.process.pid = pid := by
      rw [finish_pid]
      simpa [child?] using List.find?_some hc
    obtain ⟨m, hm⟩ := finish_eq w c
    -- The child that has ended takes the place of the one that was running.
    let settle : Child → Child := fun d =>
      if d.process.pid == (w.finish c).2.process.pid then (w.finish c).2 else d
    have hsettle : ∀ d, d.process.pid ≠ pid → settle d = d := by
      intro d hd
      simp [settle, hpid, hd]
    have hpids : ∀ d, (settle d).process.pid = d.process.pid := by
      intro d
      by_cases hd : d.process.pid = pid <;> simp [settle, hpid, hd]
    refine ⟨m, w.children.map settle, ?_, ?_⟩
    · show (w.finish c).1.setChild (w.finish c).2 = _
      rw [hm]
      rfl
    · rw [List.filter_map]
      -- Numbers stay the same, so that the others are found again by theirs.
      have hkept : w.children.filter ((fun c => c.process.pid != pid) ∘ settle) =
          w.children.filter (fun c => c.process.pid != pid) :=
        List.filter_congr fun d _ => by simp [hpids]
      rw [hkept, List.map_congr_left (g := id), List.map_id]
      intro d hd
      exact hsettle d (by simpa using (List.mem_filter.1 hd).2)

end World

namespace Proc

theorem run_attempt_pure (kind : CallKind) (r : Except Errno α) (w : World) :
    ((Proc.attempt kind (pure r)).run w).2 = w.counting kind := by
  cases h : w.refusal kind with
  | none =>
    rw [run_attempt_granted h]
    rfl
  | some e => rw [run_attempt_refused h]

/-- The child has run to its end and is gone. -/
theorem run_waitFor (pid : Nat) (w : World) :
    ((Proc.waitFor pid).run w).2 =
      (((w.awaiting pid).finishPid pid).dropChild pid).counting .wait := by
  unfold Proc.waitFor
  rw [run_bind, run_get, run_bind, run_note, run_bind, run_modify, run_bind, run_get, run_bind,
    run_modify]
  dsimp only
  split <;> exact run_attempt_pure _ _ _

/-- **A wait** takes its child away, whether the answer is refused or not. -/
theorem waited_waitFor (pid : Nat) (w : World) :
    World.Waited [pid] w ((Proc.waitFor pid).run w).2 := by
  obtain ⟨m, children, hfinish, hothers⟩ := World.finishPid_eq (w.awaiting pid) pid
  rw [run_waitFor, hfinish]
  refine ⟨rfl, rfl, rfl, List.suffix_cons _ _, ?_, [.waited pid w.self w.children w.withReaders],
    rfl, rfl, ?_⟩
  · show children.filter (fun c => c.process.pid != pid) = _
    rw [hothers]
    refine List.filter_congr fun c _ => ?_
    by_cases h : c.process.pid = pid <;> simp [h]
  · intro e he
    exact ⟨pid, w.children, w.withReaders, List.mem_singleton.1 he⟩

end Proc

theorem Execution.waited_waitFor (pid : Nat) (w : World) :
    World.Waited [pid] w ((Execution.waitFor pid).run w).2 := by
  have h := Proc.waited_waitFor pid w
  unfold Execution.waitFor
  rw [run_bind]
  cases ((Proc.waitFor pid).run w).1 with
  | ok status =>
    dsimp only
    rw [Proc.run_log]
    exact h.noting _
  | error e =>
    dsimp only
    rw [Proc.run_log]
    exact h.noting _

end LineShell
