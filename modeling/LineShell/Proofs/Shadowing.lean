import LineShell.Proofs.Calls
import LineShell.Proofs.Lines
/-!
# Built-ins shadow the rest of a line

A built-in is found in the leading vector of a plan, and what else the plan holds is not looked at:
plans of any shapes that begin alike run alike. `World.Alone` is what the shell may do by itself,
and `Proc.IsAlone` and `Attempt.IsAlone` are closed under the steps of which the built-ins are made.

Any other command is only offered to the built-ins, and then goes to the executor of its plan
(`Plan.RunBy`). The headline is `Shell.run_shadows`.
-/

namespace LineShell

variable {α β : Type}

/-! ### What the shell does by itself -/

/-- The calls that the shell makes by itself. -/
def CallKind.IsOwn (kind : CallKind) : Prop :=
  kind ∈ [.changeDirectory, .workingDirectory, .signalAction, .exec]

instance (kind : CallKind) : Decidable kind.IsOwn :=
  inferInstanceAs (Decidable (kind ∈ [.changeDirectory, .workingDirectory, .signalAction, .exec]))

namespace World

/-- The shell has made no child and waited for none; it has asked for no fork, no pipe and no file,
and at most tried to start a program in its own place. -/
structure Alone (w w' : World) : Prop where
  pid : w'.self.pid = w.self.pid
  children : w'.children = w.children
  nextPid : w'.nextPid = w.nextPid
  calls : ∃ kinds, w'.calls = kinds ++ w.calls ∧ ∀ kind ∈ kinds, kind.IsOwn
  trace : ∃ made, w'.trace = made ++ w.trace ∧
    ∀ e ∈ made, ∃ words caller result, e = .started words caller result ∧ caller.pid = w.self.pid

namespace Alone

variable {u v w : World}

/-- Nothing but the process itself and the machine is different. -/
theorem of_context (w : World) {self : Process} (m : Machine) (hpid : self.pid = w.self.pid) :
    Alone w { w with self := self, machine := m } :=
  ⟨hpid, rfl, rfl, ⟨[], rfl, fun _ h => absurd h List.not_mem_nil⟩,
    [], rfl, fun _ h => absurd h List.not_mem_nil⟩

theorem refl (w : World) : Alone w w := of_context w w.machine rfl

theorem trans (h : Alone u v) (h' : Alone v w) : Alone u w := by
  obtain ⟨kinds, hcalls, hkinds⟩ := h.calls
  obtain ⟨kinds', hcalls', hkinds'⟩ := h'.calls
  obtain ⟨made, htrace, hmade⟩ := h.trace
  obtain ⟨made', htrace', hmade'⟩ := h'.trace
  refine ⟨h'.pid.trans h.pid, h'.children.trans h.children, h'.nextPid.trans h.nextPid,
    ⟨kinds' ++ kinds, by rw [hcalls', hcalls, List.append_assoc], fun kind hkind => ?_⟩,
    made' ++ made, by rw [htrace', htrace, List.append_assoc], fun e he => ?_⟩
  · rcases List.mem_append.1 hkind with hkind | hkind
    · exact hkinds' kind hkind
    · exact hkinds kind hkind
  · rcases List.mem_append.1 he with he | he
    · exact h.pid ▸ hmade' e he
    · exact hmade e he

theorem noting (w : World) (records : List Log.Record) : Alone w (w.noting records) :=
  of_context w _ rfl

theorem counting (w : World) {kind : CallKind} (h : kind.IsOwn) : Alone w (w.counting kind) := by
  refine ⟨rfl, rfl, rfl, ⟨[kind], rfl, fun kind' hkind => ?_⟩, [], rfl,
    fun _ h => absurd h List.not_mem_nil⟩
  rw [List.mem_singleton.1 hkind]
  exact h

/-- The signal actions may be changed once. -/
theorem altered (w : World) (i : Interrupts) (records : List Log.Record) :
    Alone w (w.altered i records (.signalAction :: w.calls)) := by
  have hown : CallKind.signalAction.IsOwn := by decide
  exact (counting w hown).trans (of_context _ _ rfl)

end Alone

end World

/-- The computation does what the shell does by itself. -/
def Proc.IsAlone (act : Proc α) : Prop := ∀ w, World.Alone w (act.run w).2

/-- The computation of the shell does what the shell does by itself. -/
def Attempt.IsAlone (act : Attempt α) : Prop :=
  ∀ shell w, World.Alone w ((act.start shell).run w).2

namespace Proc

theorem isAlone_pure (a : α) : IsAlone (pure a : Proc α) := fun w => .refl w

theorem IsAlone.bind {x : Proc α} {f : α → Proc β} (hx : IsAlone x) (hf : ∀ a, IsAlone (f a)) :
    IsAlone (x >>= f) := fun w => (hx w).trans (hf _ _)

theorem isAlone_log (record : Log.Record) : IsAlone (Proc.log record) := by
  intro w
  rw [run_log]
  exact .noting w _

theorem isAlone_write (fd : Nat) (text : Text) : IsAlone (Proc.write fd text) := by
  intro w
  rw [run_write]
  exact .of_context w _ rfl

theorem isAlone_call {act : Call α} (h : ∀ c, (act.run c).2.self.pid = c.self.pid) :
    IsAlone (Proc.call act) := by
  intro w
  rw [run_call]
  exact .of_context w _ (h w.toContext)

theorem IsAlone.attempt {kind : CallKind} (hkind : kind.IsOwn) {act : Proc (Except Errno α)}
    (h : IsAlone act) : IsAlone (Proc.attempt kind act) := by
  intro w
  cases hrefusal : w.refusal kind with
  | none =>
    rw [run_attempt_granted hrefusal]
    exact (World.Alone.counting w hkind).trans (h _)
  | some e =>
    rw [run_attempt_refused hrefusal]
    exact .counting w hkind

theorem isAlone_changeDirectory (path : Bytes) : IsAlone (Proc.changeDirectory path) := by
  refine IsAlone.attempt (by decide) (isAlone_call fun c => ?_)
  unfold Call.changeDirectory
  rw [run_bind, run_get]
  dsimp only
  cases c.machine.tree.enterDirectory c.self.directory path <;> rfl

theorem isAlone_workingDirectory : IsAlone Proc.workingDirectory := by
  refine IsAlone.attempt (by decide) (isAlone_call fun c => ?_)
  unfold Call.workingDirectory
  rw [run_bind, run_get]
  dsimp only
  cases c.machine.tree.pathOf? c.self.directory <;> rfl

theorem isAlone_exec (argv : List Text) : IsAlone (Proc.exec argv) := by
  intro w
  have htry : World.Alone w ((tryExec argv).run w).2 := by
    refine IsAlone.attempt (by decide) (isAlone_call fun c => ?_) w
    unfold Call.exec
    rw [run_bind, run_get]
    dsimp only
    cases Exec.find c _ (argv.map Text.bytes) <;> rfl
  obtain ⟨made, htrace, hmade⟩ := htry.trace
  rw [run_exec]
  refine ⟨htry.pid, htry.children, htry.nextPid, htry.calls,
    .started argv w.self ((tryExec argv).run w).1 :: made, ?_, fun e he => ?_⟩
  · show _ :: _ = _
    rw [htrace]
    rfl
  · rcases List.mem_cons.1 he with rfl | he
    · exact ⟨argv, w.self, _, rfl, rfl⟩
    · exact hmade e he

end Proc

namespace Attempt

theorem isAlone_pure (a : α) : IsAlone (pure a : Attempt α) := fun _ w => .refl w

theorem isAlone_throw (e : ShellError) : IsAlone (throw e : Attempt α) := fun _ w => .refl w

theorem isAlone_modify (f : Shell → Shell) : IsAlone (modify f : Attempt PUnit) :=
  fun _ w => .refl w

theorem isAlone_lift {act : Proc α} (h : act.IsAlone) : IsAlone (liftM act : Attempt α) := by
  intro shell w
  rw [start_lift]
  exact h w

theorem isAlone_ofProc {act : Proc (Except ShellError α)} (h : act.IsAlone) :
    IsAlone (ofProc act) := by
  intro shell w
  rw [start_ofProc]
  exact h w

theorem IsAlone.bind {x : Attempt α} {f : α → Attempt β} (hx : IsAlone x)
    (hf : ∀ a, IsAlone (f a)) : IsAlone (x >>= f) := by
  intro shell w
  have hfirst := hx shell w
  rw [start_bind]
  generalize (x.start shell).run w = r at hfirst ⊢
  rcases r with ⟨⟨e | a, shell'⟩, w'⟩
  · exact hfirst
  · exact hfirst.trans (hf a shell' w')

end Attempt

/-! ### The built-ins -/

namespace Builtin

open Proc Attempt

theorem isAlone_moveTo (operand : Text) : Proc.IsAlone (moveTo operand) := by
  refine Proc.IsAlone.bind (fun w => .refl w) fun directories => ?_
  refine Proc.IsAlone.bind (fun w => .refl w) fun process => ?_
  dsimp only
  split
  · exact Proc.isAlone_pure _
  · refine (isAlone_changeDirectory _).bind fun r => ?_
    cases r <;> exact Proc.isAlone_pure _

theorem isAlone_cd (operand : Option Text) : Attempt.IsAlone (cd operand) := by
  unfold cd
  cases operand with
  | none => exact isAlone_throw _
  | some operand =>
    refine (isAlone_ofProc (isAlone_moveTo operand)).bind fun _ => ?_
    refine (isAlone_lift isAlone_workingDirectory).bind fun r => ?_
    cases r with
    | error e => exact isAlone_throw _
    | ok cwd =>
      refine (isAlone_lift (isAlone_call fun _ => rfl)).bind fun _ => ?_
      exact (isAlone_lift (isAlone_log _)).bind fun _ => isAlone_modify _

theorem isAlone_replaceImage (v : ArgVector) : Proc.IsAlone (Execution.replaceImage v) := by
  unfold Execution.replaceImage
  cases Execution.argv v with
  | error e => exact Proc.isAlone_pure _
  | ok args =>
    have hreset : Proc.IsAlone Signals.resetForChild := by
      intro w
      rw [Signals.run_resetForChild]
      exact .altered w _ _
    have hresume : Proc.IsAlone Signals.resume := by
      intro w
      obtain ⟨records, hrun⟩ := Signals.run_resume w
      rw [hrun]
      exact .altered w _ _
    have hstart : Proc.IsAlone (Execution.start args) := by
      unfold Execution.start
      split
      · exact Proc.isAlone_pure _
      · exact isAlone_exec args
    -- Reset, start and what is resumed concern the shell alone, one after the other.
    refine hreset.bind fun _ => hstart.bind fun r => ?_
    cases r with
    | ok image => exact Proc.isAlone_pure _
    | error e =>
      refine hresume.bind fun r => ?_
      cases r with
      | ok _ => exact Proc.isAlone_pure _
      | error refused => exact (isAlone_log _).bind fun _ => Proc.isAlone_pure _

theorem isAlone_exec (v : ArgVector) : Attempt.IsAlone (exec v) := by
  unfold exec
  split
  · exact Attempt.isAlone_pure _
  · exact (isAlone_ofProc (isAlone_replaceImage v)).bind fun _ => Attempt.isAlone_pure _

theorem isAlone_run (command : Text) (v : ArgVector) : Attempt.IsAlone (run command v) := by
  unfold run
  split
  · exact Attempt.isAlone_pure _
  split
  · exact (isAlone_cd _).bind fun _ => Attempt.isAlone_pure _
  split
  · exact (isAlone_lift (isAlone_write _ _)).bind fun _ => Attempt.isAlone_pure _
  split
  · exact isAlone_exec _
  · exact Attempt.isAlone_pure _

/-- **Offering a command to the built-ins is done by the shell itself.** -/
theorem isAlone_dispatch (v : ArgVector) : Attempt.IsAlone (dispatch v) := by
  unfold dispatch
  cases v.command? with
  | none => exact Attempt.isAlone_pure _
  | some command =>
    refine (isAlone_run command v).bind fun outcome => ?_
    cases outcome with
    | replaced image => exact Attempt.isAlone_pure _
    | notBuiltin | handled | exit =>
      exact (isAlone_lift (isAlone_log _)).bind fun _ => Attempt.isAlone_pure _

/-- A name of a built-in is not passed over. -/
theorem run_ne_notBuiltin {command : Text} (h : IsName command) (v : ArgVector) (shell : Shell)
    (w : World) : (((run command v).start shell).run w).1.1 ≠ .ok .notBuiltin := by
  rcases h with rfl | rfl | rfl | rfl
  · rw [run_exit]
    exact fun h => nomatch h
  · rw [run_cd, Attempt.start_bind]
    rcases ((cd (v.arg? 1)).start shell).run w with ⟨⟨_ | _, _⟩, _⟩ <;> exact fun h => nomatch h
  · rw [run_help, Attempt.start_bind, Attempt.start_lift]
    exact fun h => nomatch h
  · rw [run_exec, start_exec]
    split
    · exact fun h => nomatch h
    · dsimp only
      cases ((Execution.replaceImage (v.shifted 1)).run w).1 <;> exact fun h => nomatch h

theorem dispatch_ne_notBuiltin {v : ArgVector} {command : Text} (hcommand : v.command? = some command)
    (h : IsName command) (shell : Shell) (w : World) :
    (((dispatch v).start shell).run w).1.1 ≠ .ok .notBuiltin := by
  have hne := run_ne_notBuiltin h v shell w
  rw [start_dispatch hcommand]
  generalize ((run command v).start shell).run w = r at hne ⊢
  rcases r with ⟨⟨e | outcome, shell'⟩, w'⟩
  · exact fun h => nomatch h
  · cases outcome with
    | notBuiltin => exact absurd rfl hne
    | handled | exit | replaced image => exact fun h => nomatch h

end Builtin

/-! ### Executors -/

/-- The executor of each shape of plan. -/
inductive Plan.RunBy : Plan → Proc (Except ShellError Unit) → Prop where
  | simple (v : ArgVector) : RunBy (.simple v) (Execution.runSimple v)
  | pipeline (left right : ArgVector) :
    RunBy (.pipeline left right) (Execution.runPipeline left right)
  | redirect (v : ArgVector) (target : Text) (mode : RedirectMode) :
    RunBy (.redirect v target mode) (Execution.runRedirect v target mode)

/-- **A plan has one executor.** -/
theorem Plan.runBy_iff {p : Plan} {act : Proc (Except ShellError Unit)} :
    p.RunBy act ↔ act = Shell.runPlan p := by
  constructor
  · rintro (_ | _ | _) <;> rfl
  · rintro rfl
    cases p
    · exact .simple _
    · exact .pipeline _ _
    · exact .redirect _ _ _

theorem World.noting_of_log (w : World) (h : w.log = none) (records : List Log.Record) :
    w.noting records = w := by
  have hmachine : records.foldl (Machine.noted w.log w.self.descriptors) w.machine = w.machine := by
    rw [h]
    exact Machine.foldl_noted_of_written (P := (· = w.machine))
      (fun _ hsink => absurd hsink (Option.not_mem_none _)) records rfl
  unfold noting
  rw [hmachine]

namespace Shell

variable {p q : Plan} {command : Text}

/-- Plans that begin alike run alike if a built-in is in front. -/
theorem run_of_leading (hleading : p.leading = q.leading)
    (hcommand : p.leading.command? = some command) (hname : Builtin.IsName command) (shell : Shell)
    (w : World) : ((run p).start shell).run w = ((run q).start shell).run w := by
  have hne := Builtin.dispatch_ne_notBuiltin hcommand hname shell w
  rw [start_run p, start_run q, ← hleading]
  generalize ((Builtin.dispatch p.leading).start shell).run w = r at hne ⊢
  rcases r with ⟨⟨e | outcome, shell'⟩, w'⟩
  · rfl
  · cases outcome with
    | notBuiltin => exact absurd rfl hne
    | handled | exit | replaced image => rfl

/-- A built-in in front is run by the shell itself. -/
theorem alone_run (hcommand : p.leading.command? = some command) (hname : Builtin.IsName command)
    (shell : Shell) (w : World) : World.Alone w (((run p).start shell).run w).2 := by
  have hne := Builtin.dispatch_ne_notBuiltin hcommand hname shell w
  have halone := Builtin.isAlone_dispatch p.leading shell w
  rw [start_run]
  generalize ((Builtin.dispatch p.leading).start shell).run w = r at hne halone ⊢
  rcases r with ⟨⟨e | outcome, shell'⟩, w'⟩
  · exact halone
  · cases outcome with
    | notBuiltin => exact absurd rfl hne
    | handled | exit | replaced image => exact halone

/-- **Built-ins shadow the rest of a line.** A built-in is run by the shell itself, and alike in all
plans that have the same leading vector: what else there is in a plan is not looked at. Any other
command is passed over, which is logged and changes nothing more, and the one executor of the plan
runs it. -/
theorem run_shadows (hleading : p.leading = q.leading)
    (hcommand : p.leading.command? = some command) (shell : Shell) (w : World) :
    (Builtin.IsName command →
      ((run p).start shell).run w = ((run q).start shell).run w ∧
      World.Alone w (((run p).start shell).run w).2) ∧
    (¬Builtin.IsName command →
      let noted := w.noting [dispatchRecord command .notBuiltin]
      ((Builtin.dispatch p.leading).start shell).run w = ((.ok .notBuiltin, shell), noted) ∧
      (w.log = none → noted = w) ∧
      ∃ act, (∀ other, p.RunBy other ↔ other = act) ∧
        ((run p).start shell).run w =
          (((act.run noted).1.map fun _ => .proceed, shell), (act.run noted).2)) := by
  refine ⟨fun hname => ⟨run_of_leading hleading hcommand hname shell w,
    alone_run hcommand hname shell w⟩, fun hname => ⟨?_, ?_, runPlan p, ?_, ?_⟩⟩
  · rw [Builtin.start_dispatch hcommand, Builtin.run_of_not_isName hname]
    rfl
  · exact fun hlog => w.noting_of_log hlog _
  · exact fun other => Plan.runBy_iff
  · exact start_run_other hcommand hname shell w

/-- Leaving, with a second stage and with a target that could not be passed on. -/
theorem run_shadows_exit :
    let v : ArgVector := ⟨[some (Text.lit "exit")]⟩
    let r := ((run (.pipeline v ⟨[some ['\x00']]⟩)).start ⟨[Path.slash], 3⟩).run World.bare
    r = ((run (.redirect v ['\x00'] .truncate)).start ⟨[Path.slash], 3⟩).run World.bare ∧
      r.1.1 = .ok .exit ∧ World.Alone World.bare r.2 := by
  let v : ArgVector := ⟨[some (Text.lit "exit")]⟩
  have hcommand : (Plan.pipeline v ⟨[some ['\x00']]⟩).leading.command? =
      some (Text.lit "exit") := rfl
  have hleading : (Plan.pipeline v ⟨[some ['\x00']]⟩).leading =
      (Plan.redirect v ['\x00'] .truncate).leading := rfl
  obtain ⟨hequal, halone⟩ :=
    (run_shadows hleading hcommand ⟨[Path.slash], 3⟩ World.bare).1 (.inl rfl)
  exact ⟨hequal, rfl, halone⟩

end Shell

end LineShell
