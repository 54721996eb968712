import LineShell.Proofs.AlikeWorlds
/-!
# Failures that nobody sees

A shell tries to change what it does on an interrupt, and to learn how its children have ended. When
that is refused it carries on: lines have the same answers, children start the same programs, and
all that is written and made is the same. Only the interrupts themselves and the log tell.

The run of every child and of every plan is related to itself under two worlds that are alike
(`Execution.relates_runPlan`), and so is every line (`Shell.relates_exec`). The headline is
`Shell.execAll_tolerates`, for any number of lines.
-/

namespace LineShell

open World

variable {α β : Type} {p : Log.Place}

/-! ### Children -/

namespace Execution

open Proc

theorem relates_close (fd : Nat) : Relates p (Alike p) (Proc.close fd) fun _ => Alike p :=
  relates_call (Call.respects_close fd)

theorem relates_duplicateTo (fd target : Nat) :
    Relates p (Alike p) (Proc.duplicateTo fd target) fun _ => Alike p :=
  (relates_call (Call.respects_duplicateTo fd target)).bind fun _ => relates_pure fun _ _ h => h

theorem relates_openFile (path : Bytes) (mode : OpenMode) :
    Relates p (Alike p) (Proc.openFile path mode) fun _ => Alike p := by
  refine ((relates_call (Call.respects_openFile path mode)).attempt (by decide)).bind fun r => ?_
  exact (relates_note _).bind fun _ => relates_pure fun _ _ h => h

theorem relates_saveOutput : Relates p (Alike p) saveOutput fun _ => Alike p := by
  refine ((relates_call (Call.respects_duplicate stdout true)).attempt (by decide)).bind fun r => ?_
  cases r with
  | ok fd => exact relates_pure fun _ _ h => h
  | error e => exact relates_pure fun _ _ h => h

theorem relates_restoreOutput (saved : Option Nat) :
    Relates p (Alike p) (restoreOutput saved) fun _ => Alike p := by
  cases saved with
  | none => exact relates_pure fun _ _ h => h
  | some fd => exact (relates_duplicateTo fd stdout).bind fun _ => relates_close fd

theorem relates_report (message : Text) :
    Relates p (Alike p) (report message) fun _ => Alike p :=
  (relates_write stdout message).bind fun _ => relates_pure fun _ _ h => h

theorem relates_start (args : List Text) : Relates p (Alike p) (start args) fun _ => Alike p := by
  unfold start
  split
  · exact relates_pure fun _ _ h => h
  · exact relates_exec args

theorem relates_startOr (args : List Text) {recover : Proc Unit}
    (hrecover : Relates p (Alike p) recover fun _ => Alike p) (diagnostic : Text) :
    Relates p (Alike p) (startOr args recover diagnostic) fun _ => Alike p := by
  refine (relates_start args).bind fun r => ?_
  cases r with
  | ok image => exact relates_pure fun _ _ h => h
  | error e => exact hrecover.bind fun _ => relates_report diagnostic

theorem relates_simpleChild (args : List Text) :
    Relates p (Alike p) (simpleChild args) fun _ => Alike p :=
  Signals.relates_resetForChild.bind fun _ =>
    relates_startOr args (relates_pure fun _ _ h => h) _

theorem relates_writerChild (args : List Text) (readEnd writeEnd : Nat) :
    Relates p (Alike p) (writerChild args readEnd writeEnd) fun _ => Alike p := by
  refine Signals.relates_resetForChild.bind fun _ => (relates_close readEnd).bind fun _ => ?_
  refine relates_saveOutput.bind fun saved => (relates_duplicateTo writeEnd stdout).bind fun _ => ?_
  exact (relates_close writeEnd).bind fun _ =>
    relates_startOr args (relates_restoreOutput saved) _

theorem relates_readerChild (args : List Text) (readEnd writeEnd : Nat) :
    Relates p (Alike p) (readerChild args readEnd writeEnd) fun _ => Alike p := by
  refine Signals.relates_resetForChild.bind fun _ => (relates_close writeEnd).bind fun _ => ?_
  refine (relates_duplicateTo readEnd stdin).bind fun _ => (relates_close readEnd).bind fun _ => ?_
  exact relates_startOr args (relates_pure fun _ _ h => h) _

theorem relates_redirectChild (args : List Text) (target : Text) (mode : RedirectMode) :
    Relates p (Alike p) (redirectChild args target mode) fun _ => Alike p := by
  refine Signals.relates_resetForChild.bind fun _ => relates_saveOutput.bind fun saved => ?_
  refine (relates_openFile target.bytes (openMode mode)).bind fun r => ?_
  cases r with
  | error e => exact relates_report _
  | ok fd =>
    refine (relates_duplicateTo fd stdout).bind fun _ => (relates_close fd).bind fun _ => ?_
    exact relates_startOr args (relates_restoreOutput saved) _

/-! ### Plans -/

theorem relates_guardedWait (pid : Nat) :
    Relates p (Paired p) (Signals.guarded (waitFor pid)) fun _ => Paired p :=
  Signals.relates_guarded (relates_waitFor pid)

/-- One child that is forked, logged and waited for. -/
theorem relates_forkOne {body : Proc Fate} (hbody : Relates p (Alike p) body fun _ => Alike p)
    (record : Nat → Log.Record) :
    Relates p (Paired p) (do
      match ← Proc.fork body with
      | .error e => return .error (.fork e)
      | .ok pid =>
        Proc.log (record pid)
        Signals.guarded (waitFor pid)
        return .ok () : Proc (Except ShellError Unit)) fun _ => Paired p := by
  refine (relates_fork hbody).bind fun r => ?_
  cases r with
  | error e => exact relates_pure fun _ _ h => h
  | ok pid =>
    refine (relates_log (record pid)).bind fun _ => (relates_guardedWait pid).bind fun _ => ?_
    exact relates_pure fun _ _ h => h

theorem relates_runSimple (v : ArgVector) :
    Relates p (Paired p) (runSimple v) fun _ => Paired p := by
  unfold runSimple
  cases argv v with
  | error e => exact relates_pure fun _ _ h => h
  | ok args => exact relates_forkOne (relates_simpleChild args) _

theorem relates_runRedirect (v : ArgVector) (target : Text) (mode : RedirectMode) :
    Relates p (Paired p) (runRedirect v target mode) fun _ => Paired p := by
  unfold runRedirect
  cases argv v with
  | error e => exact relates_pure fun _ _ h => h
  | ok args =>
    dsimp only
    cases withoutNul target with
    | error e => exact relates_pure fun _ _ h => h
    | ok target => exact relates_forkOne (relates_redirectChild args target mode) _

/-- A pipe never takes the number of the log. -/
theorem relates_pipe : Relates p (Paired p) Proc.pipe fun r w w' => w.Paired p w' ∧
    ∀ readEnd writeEnd, r = .ok (readEnd, writeEnd) → p.Apart readEnd writeEnd := by
  have halike : Relates p (Alike p) Proc.pipe fun _ => Alike p :=
    ((relates_call Call.respects_pipe).attempt (by decide)).bind fun r =>
      (relates_note _).bind fun _ => relates_pure fun _ _ h => h
  refine ⟨halike.onward, fun w w' hw hagree => ?_⟩
  obtain ⟨heq, hafter⟩ := halike.related w w' hw.alike hagree
  refine ⟨heq, ?_⟩
  rcases Proc.pipe_cases w with ⟨e, hrun⟩ | ⟨readEnd, writeEnd, hfree, hrun⟩
  · rw [hrun] at hafter ⊢
    exact ⟨⟨hafter, hw.holdsLog⟩, fun _ _ hends => nomatch hends⟩
  · rw [hrun] at hafter ⊢
    have hapart : p.Apart readEnd writeEnd := by
      -- Both ends were free, while the log was open.
      intro sink hsink
      obtain ⟨handle, hget, -⟩ := hw.holdsLog sink hsink
      exact ⟨Table.ne_of_get? hget hfree.1, Table.ne_of_get? hget hfree.2.1⟩
    refine ⟨⟨hafter, fun sink hsink => ?_⟩, fun _ _ hends => ?_⟩
    · obtain ⟨handle, hget, hplace⟩ := hw.holdsLog sink hsink
      obtain ⟨hread, hwrite⟩ := hapart sink hsink
      exact ⟨handle, (DescriptorTable.get?_withEnds hread hwrite _ _).trans hget, hplace⟩
    · cases hends
      exact hapart

theorem relates_closeEnds (readEnd writeEnd : Nat) :
    Relates p (fun w w' => w.Paired p w' ∧ p.Apart readEnd writeEnd) (closeEnds readEnd writeEnd)
      fun _ => Paired p := by
  have halike : Relates p (Alike p) (closeEnds readEnd writeEnd) fun _ => Alike p :=
    (relates_close readEnd).bind fun _ => relates_close writeEnd
  refine ⟨halike.onward, fun w w' hw hagree => ?_⟩
  obtain ⟨heq, hafter⟩ := halike.related w w' hw.1.alike hagree
  refine ⟨heq, hafter, fun sink hsink => ?_⟩
  obtain ⟨handle, hget, hplace⟩ := hw.1.holdsLog sink hsink
  obtain ⟨hread, hwrite⟩ := hw.2 sink hsink
  refine ⟨handle, ?_, hplace⟩
  rw [run_closeEnds]
  show Table.get? sink.descriptor (Table.remove writeEnd (Table.remove readEnd _)) = _
  rw [Table.get?_remove, if_neg hwrite, Table.get?_remove, if_neg hread]
  exact hget

theorem relates_runStages (writer reader : List Text) (readEnd writeEnd : Nat) :
    Relates p (fun w w' => w.Paired p w' ∧ p.Apart readEnd writeEnd)
      (runStages writer reader readEnd writeEnd) fun _ => Paired p := by
  unfold runStages
  refine ((relates_fork (relates_writerChild writer readEnd writeEnd)).frame _).bind fun r => ?_
  cases r with
  | error e =>
    exact (relates_closeEnds readEnd writeEnd).bind fun _ => relates_pure fun _ _ h => h
  | ok writerPid =>
    refine ((relates_fork (relates_readerChild reader readEnd writeEnd)).frame _).bind fun r => ?_
    cases r with
    | error e =>
      refine (relates_closeEnds readEnd writeEnd).bind fun _ => ?_
      exact (relates_guardedWait writerPid).bind fun _ => relates_pure fun _ _ h => h
    | ok readerPid =>
      refine (relates_closeEnds readEnd writeEnd).bind fun _ => (relates_log _).bind fun _ => ?_
      refine (Signals.relates_guarded ?_).bind fun _ => relates_pure fun _ _ h => h
      exact (relates_waitFor writerPid).bind fun _ => relates_waitFor readerPid

theorem relates_runPipeline (left right : ArgVector) :
    Relates p (Paired p) (runPipeline left right) fun _ => Paired p := by
  unfold runPipeline
  cases argv left with
  | error e => exact relates_pure fun _ _ h => h
  | ok writer =>
    dsimp only
    cases argv right with
    | error e => exact relates_pure fun _ _ h => h
    | ok reader =>
      refine relates_pipe.bind fun r => ?_
      cases r with
      | error e => exact relates_pure fun _ _ h => h.1
      | ok ends =>
        obtain ⟨readEnd, writeEnd⟩ := ends
        exact (relates_runStages writer reader readEnd writeEnd).mono
          (fun _ _ h => ⟨h.1, h.2 readEnd writeEnd rfl⟩) fun _ _ _ h => h

/-- **A plan does the same in both worlds.** -/
theorem relates_runPlan (plan : Plan) :
    Relates p (Paired p) (Shell.runPlan plan) fun _ => Paired p := by
  cases plan with
  | simple v => exact relates_runSimple v
  | pipeline left right => exact relates_runPipeline left right
  | redirect v target mode => exact relates_runRedirect v target mode

end Execution

/-! ### Becoming a program -/

/-- The worlds are alike, and the process has its log open unless another program has taken its
place. -/
def World.AlikeAfter (p : Log.Place) (gone : Prop) (w w' : World) : Prop :=
  w.Alike p w' ∧ (¬gone → w.Paired p w')

theorem World.Paired.alikeAfter {w w' : World} (h : w.Paired p w') (gone : Prop) :
    AlikeAfter p gone w w' := ⟨h.alike, fun _ => h⟩

/-- An error puts no program in the place of the shell. -/
theorem not_replaced_of_error {ε : Type} (e : ε) (f : Image → α) :
    ¬∃ image, (.error e : Except ε α) = .ok (f image) := by
  rintro ⟨image, himage⟩
  cases himage

/-- After an error the log is still open, whatever is asked about next. -/
theorem World.AlikeAfter.of_error {ε : Type} {e : ε} {f : Image → α} {w w' : World}
    (h : AlikeAfter p (∃ image, (.error e : Except ε α) = .ok (f image)) w w') (gone : Prop) :
    AlikeAfter p gone w w' :=
  (h.2 (not_replaced_of_error e f)).alikeAfter gone

namespace Execution

open Proc

/-- A program that does not start leaves the log open. -/
theorem relates_start_paired (args : List Text) :
    Relates p (Paired p) (start args) fun r => AlikeAfter p (∃ image, r = .ok image) := by
  have hstart := relates_start (p := p) args
  refine ⟨hstart.onward, fun w w' hw hagree => ?_⟩
  obtain ⟨heq, halike⟩ := hstart.related w w' hw.alike hagree
  refine ⟨heq, halike, fun hstays => ⟨halike, ?_⟩⟩
  -- A failed start closes nothing.
  rcases start_cases args w with ⟨e, made, calls, u, -, hu, -, hrun⟩ | ⟨image, u, -, hrun⟩
  · rw [hrun, hu]
    exact hw.holdsLog
  · rw [hrun] at hstays
    exact absurd ⟨image, rfl⟩ hstays

theorem relates_resuming (e : ShellError) :
    Relates p (Paired p) (resuming e) fun _ => Paired p := by
  refine ⟨fun w => ?_, fun w w' hw _ => ?_⟩
  · obtain ⟨records, hrun⟩ := run_resuming e w
    rw [hrun]
    exact .of_eq rfl rfl
  · obtain ⟨records, hrun⟩ := run_resuming e w
    obtain ⟨records', hrun'⟩ := run_resuming e w'
    rw [hrun, hrun']
    refine ⟨rfl, hw.altered ?_ records records' ?_⟩
    · rfl
    · rw [hw.alike.calls]

/-- **An attempt to become a program** comes to the same in both worlds. -/
theorem relates_replaceImage (v : ArgVector) :
    Relates p (Paired p) (replaceImage v) fun r => AlikeAfter p (∃ image, r = .ok image) := by
  unfold replaceImage
  cases argv v with
  | error e => exact relates_pure fun _ _ h => h.alikeAfter _
  | ok args =>
    have hreset : Relates p (Paired p) Signals.resetForChild fun _ => Paired p :=
      Signals.relates_resetForChild.paired fun w => by
        rw [Signals.run_resetForChild]
        rfl
    refine hreset.bind fun _ => (relates_start_paired args).bind fun r => ?_
    cases r with
    | ok image => exact relates_pure fun _ _ h => ⟨h.1, fun hstays => absurd ⟨image, rfl⟩ hstays⟩
    | error e =>
      have hstays := not_replaced_of_error e fun image : Image => image
      exact (relates_resuming (.ofExec (program args) e)).mono (fun _ _ h => h.2 hstays)
        fun _ _ _ h => h.alikeAfter _

end Execution

/-! ### Computations of the shell -/

/-- Run in worlds that `R` relates, the computation of the shell has the same answer and leaves the
shell the same memory in both, and it leaves worlds that `S` relates for the answer. -/
def Attempt.Relates (p : Log.Place) (R : World → World → Prop) (act : Attempt α)
    (S : Except ShellError α → World → World → Prop) : Prop :=
  ∀ shell, Proc.Relates p R (act.start shell) fun r => S r.1

namespace Attempt

variable {R : World → World → Prop} {S : Except ShellError α → World → World → Prop}
  {T : Except ShellError β → World → World → Prop}

theorem relates_pure {a : α} (h : ∀ w w', R w w' → S (.ok a) w w') :
    Relates p R (pure a : Attempt α) S := fun _ => Proc.relates_pure h

theorem relates_throw {e : ShellError} (h : ∀ w w', R w w' → S (.error e) w w') :
    Relates p R (throw e : Attempt α) S := fun _ => Proc.relates_pure h

theorem relates_modify (f : Shell → Shell) {S : Except ShellError PUnit → World → World → Prop}
    (h : ∀ w w', R w w' → S (.ok ⟨⟩) w w') : Relates p R (modify f : Attempt PUnit) S :=
  fun _ => Proc.relates_pure h

theorem relates_lift {act : Proc α} (h : Proc.Relates p R act fun a => S (.ok a)) :
    Relates p R (liftM act : Attempt α) S := by
  intro shell
  have hrun : (liftM act : Attempt α).start shell = act >>= fun a => pure (.ok a, shell) :=
    funext fun w => start_lift act shell w
  rw [hrun]
  exact h.bind fun a => Proc.relates_pure fun _ _ hs => hs

theorem relates_ofProc {act : Proc (Except ShellError α)} (h : Proc.Relates p R act S) :
    Relates p R (ofProc act) S := by
  intro shell
  have hrun : (ofProc act).start shell = act >>= fun r => pure (r, shell) :=
    funext fun w => start_ofProc act shell w
  rw [hrun]
  exact h.bind fun r => Proc.relates_pure fun _ _ hs => hs

theorem Relates.bind {x : Attempt α} {f : α → Attempt β} (hx : Relates p R x S)
    (hf : ∀ a, Relates p (S (.ok a)) (f a) T) (hfailed : ∀ e w w', S (.error e) w w' →
      T (.error e) w w') : Relates p R (x >>= f) T := by
  intro shell
  have hrun : (x >>= f).start shell = x.start shell >>= fun r =>
      match r with
      | (.ok a, shell) => (f a).start shell
      | (.error e, shell) => pure (.error e, shell) := by
    refine funext fun w => (start_bind x f shell w).trans ?_
    show _ = StateT.run (x.start shell >>= _) w
    rw [run_bind]
    rcases (x.start shell).run w with ⟨⟨e | a, shell'⟩, w'⟩ <;> rfl
  rw [hrun]
  refine (hx shell).bind fun r => ?_
  rcases r with ⟨e | a, shell'⟩
  · exact Proc.relates_pure (hfailed e)
  · exact hf a shell'

theorem relates_get_bind {f : Shell → Attempt α} (hf : ∀ shell, Relates p R (f shell) S) :
    Relates p R (get >>= f) S := by
  intro shell
  have hrun : (get >>= f).start shell = (f shell).start shell := by
    funext w
    exact start_bind get f shell w
  rw [hrun]
  exact hf shell shell

end Attempt

/-! ### Built-ins -/

namespace Builtin

open Attempt

theorem relates_changeDirectory (path : Bytes) :
    Proc.Relates p (Paired p) (Proc.changeDirectory path) fun _ => Paired p := by
  refine Proc.Relates.paired ((Proc.relates_call (Call.respects_changeDirectory path)).attempt
    (by decide)) fun w => ?_
  show ((Proc.changeDirectory path).run w).2.self.descriptors = _
  rcases changeDirectory_cases path w with ⟨e, h⟩ | ⟨directory, h⟩
  · rw [h]
    rfl
  · rw [h]

theorem relates_workingDirectory :
    Proc.Relates p (Paired p) Proc.workingDirectory fun _ => Paired p := by
  refine Proc.Relates.paired ((Proc.relates_call Call.respects_workingDirectory).attempt
    (by decide)) fun w => ?_
  show (Proc.workingDirectory.run w).2.self.descriptors = _
  obtain ⟨r, h, -⟩ := run_workingDirectory w
  rw [h]
  rfl

theorem relates_moveTo (operand : Text) :
    Proc.Relates p (Paired p) (moveTo operand) fun _ => Paired p := by
  refine (Proc.relates_directories fun _ _ h => h.alike).bind fun directories => ?_
  refine Proc.relates_self_bind (fun _ => rfl) (fun _ _ h => h.alike) fun process => ?_
  dsimp only
  split
  · exact Proc.relates_pure fun _ _ h => h
  · refine (relates_changeDirectory _).bind fun r => ?_
    cases r <;> exact Proc.relates_pure fun _ _ h => h

theorem relates_syncCwd :
    Attempt.Relates p (Paired p) Shell.syncCwd fun _ => Paired p := by
  refine Relates.bind (S := fun _ => Paired p) (relates_lift relates_workingDirectory) (fun r => ?_)
    fun _ _ _ h => h
  cases r with
  | error e => exact relates_throw fun _ _ h => h
  | ok cwd =>
    have hset : Proc.Relates p (Paired p) (Proc.call (Call.setVariable (Text.lit "PWD") cwd))
        fun _ => Paired p :=
      (Proc.relates_call (Call.respects_setVariable _ cwd)).paired fun _ => rfl
    refine Relates.bind (S := fun _ => Paired p) (relates_lift hset) (fun _ => ?_) fun _ _ _ h => h
    refine Relates.bind (S := fun _ => Paired p) (relates_lift (Proc.relates_log _)) (fun _ => ?_)
      fun _ _ _ h => h
    exact relates_modify _ fun _ _ h => h

theorem relates_cd (operand : Option Text) :
    Attempt.Relates p (Paired p) (cd operand) fun _ => Paired p := by
  unfold cd
  cases operand with
  | none => exact relates_throw fun _ _ h => h
  | some operand =>
    exact (relates_ofProc (relates_moveTo operand)).bind (fun _ => relates_syncCwd) fun _ _ _ h => h

/-- **A built-in does the same in both worlds.** -/
theorem relates_run (command : Text) (v : ArgVector) :
    Attempt.Relates p (Paired p) (run command v) fun r =>
      AlikeAfter p (∃ image, r = .ok (.replaced image)) := by
  unfold run
  split
  · exact relates_pure fun _ _ h => h.alikeAfter _
  split
  · exact (relates_cd _).bind (fun _ => relates_pure fun _ _ h => h.alikeAfter _)
      fun _ _ _ h => h.alikeAfter _
  split
  · have hwrite : Proc.Relates p (Paired p) (Proc.write Execution.stdout (help ++ ['\n']))
        fun _ => Paired p :=
      (Proc.relates_write _ _).paired fun w => by rw [Proc.run_write]
    exact Relates.bind (S := fun _ => Paired p) (relates_lift hwrite)
      (fun _ => relates_pure fun _ _ h => h.alikeAfter _) fun _ _ _ h => h.alikeAfter _
  split
  · unfold exec
    split
    · exact relates_pure fun _ _ h => h.alikeAfter _
    · refine (relates_ofProc (Execution.relates_replaceImage _)).bind (fun image => ?_)
        fun _ _ _ h => h.of_error _
      exact relates_pure fun w w' h => ⟨h.1, fun hstays => absurd ⟨image, rfl⟩ hstays⟩
  · exact relates_pure fun _ _ h => h.alikeAfter _

theorem relates_dispatch (v : ArgVector) :
    Attempt.Relates p (Paired p) (dispatch v) fun r =>
      AlikeAfter p (∃ image, r = .ok (.replaced image)) := by
  unfold dispatch
  cases v.command? with
  | none => exact relates_pure fun _ _ h => h.alikeAfter _
  | some command =>
    refine (relates_run command v).bind (fun outcome => ?_)
      fun _ _ _ h => h.of_error _
    -- What was offered is logged as long as the shell is there.
    have hlogged : ∀ outcome : Outcome, (∀ image, outcome ≠ .replaced image) →
        ∀ record, Attempt.Relates p
          (AlikeAfter p (∃ image, (.ok outcome : Except ShellError Outcome) = .ok (.replaced image)))
          (do (Proc.log record : Proc Unit); return outcome) fun r =>
            AlikeAfter p (∃ image, r = .ok (.replaced image)) := by
      intro outcome hstays record
      refine Relates.bind (S := fun _ => Paired p) (relates_lift
        ((Proc.relates_log record).mono (fun _ _ h => h.2 fun ⟨image, himage⟩ => ?_)
          fun _ _ _ h => h)) (fun _ => relates_pure fun _ _ h => h.alikeAfter _)
        fun _ _ _ h => h.alikeAfter _
      exact hstays image (Except.ok.inj himage)
    cases outcome with
    | replaced image =>
      have hpure : Attempt.Relates p (fun w w' => w.Alike p w') (pure (Outcome.replaced image))
          fun r => AlikeAfter p (∃ image, r = .ok (.replaced image)) :=
        relates_pure fun _ _ h => ⟨h, fun hstays => absurd ⟨image, rfl⟩ hstays⟩
      exact fun shell => (hpure shell).mono (fun _ _ h => h.1) fun _ _ _ h => h
    | notBuiltin => exact hlogged .notBuiltin (fun _ h => nomatch h) _
    | handled => exact hlogged .handled (fun _ h => nomatch h) _
    | exit => exact hlogged .exit (fun _ h => nomatch h) _

end Builtin

/-! ### Lines -/

namespace Shell

open Attempt

/-- A line is planned alike: the variables are the same. -/
theorem relates_plan (shell : Shell) (line : Text) :
    Proc.Relates p (Paired p) (plan shell.maxArgs line) fun _ => Paired p := by
  refine ⟨fun w => ?_, fun w w' hw _ => ?_⟩
  · rw [run_plan]
    exact .of_eq rfl rfl
  · have hplanned : planned shell w' line = planned shell w line := by
      unfold planned
      rw [hw.alike.environment]
    rw [run_plan, run_plan, hplanned]
    exact ⟨rfl, hw.noting _ _⟩

theorem relates_run (plan : Plan) :
    Attempt.Relates p (Paired p) (run plan) fun r =>
      AlikeAfter p (∃ image, r = .ok (.replaced image)) := by
  refine (Builtin.relates_dispatch plan.leading).bind (fun outcome => ?_)
    fun _ _ _ h => h.of_error _
  cases outcome with
  | replaced image =>
    exact relates_pure fun _ _ h => ⟨h.1, fun hstays => absurd ⟨image, rfl⟩ hstays⟩
  | exit => exact relates_pure fun _ _ h => (h.2 fun ⟨_, h⟩ => nomatch h).alikeAfter _
  | handled => exact relates_pure fun _ _ h => (h.2 fun ⟨_, h⟩ => nomatch h).alikeAfter _
  | notBuiltin =>
    have hplan : Proc.Relates p (AlikeAfter p (∃ image, (.ok .notBuiltin :
        Except ShellError Builtin.Outcome) = .ok (.replaced image))) (runPlan plan)
          fun _ => Paired p :=
      (Execution.relates_runPlan plan).mono (fun _ _ h => h.2 fun ⟨_, h⟩ => nomatch h)
        fun _ _ _ h => h
    exact (relates_ofProc hplan).bind (fun _ => relates_pure fun _ _ h => h.alikeAfter _)
      fun _ _ _ h => h.alikeAfter _

/-- **A line does the same in both worlds.** -/
theorem relates_exec (line : Text) :
    Attempt.Relates p (Paired p) (exec line) fun r =>
      AlikeAfter p (∃ image, r = .ok (.replaced image)) := by
  refine relates_get_bind fun shell => ?_
  refine (relates_ofProc (relates_plan shell line)).bind (fun planned => ?_)
    fun _ _ _ h => h.alikeAfter _
  cases planned with
  | none => exact relates_pure fun _ _ h => h.alikeAfter _
  | some plan =>
    exact Relates.bind (S := fun _ => Paired p) (relates_lift (Proc.relates_log _))
      (fun _ => relates_run plan) fun _ _ _ h => h.alikeAfter _

/-- Executes lines one after another, whatever becomes of each, as long as there is a shell.
Returns what they have answered. -/
def execAll : List Text → StateT Shell Proc (List (Except ShellError Flow))
  | [] => return []
  | line :: rest => do
    match ← (exec line).run with
    | .ok (.replaced image) => return [.ok (.replaced image)]
    | answer => return answer :: (← execAll rest)

theorem run_execAll_cons (line : Text) (rest : List Text) (shell : Shell) :
    (execAll (line :: rest)).run shell = (do
      match ← (exec line).start shell with
      | (.ok (.replaced image), shell) => return ([.ok (.replaced image)], shell)
      | (answer, shell) =>
        let (answers, shell) ← (execAll rest).run shell
        return (answer :: answers, shell)) := by
  conv => lhs; unfold execAll
  rw [StateT.run_bind]
  refine bind_congr fun r => ?_
  rcases r with ⟨e | flow, shell⟩
  · rfl
  · cases flow <;> rfl

/-- **Any number of lines do the same in both worlds.** -/
theorem relates_execAll (lines : List Text) (shell : Shell) :
    Proc.Relates p (Paired p) ((execAll lines).run shell) fun _ => Alike p := by
  -- The log is open before each line, since only a shell that is still there gets another one.
  induction lines generalizing shell with
  | nil => exact Proc.relates_pure fun _ _ h => h.alike
  | cons line rest ih =>
    rw [run_execAll_cons]
    refine (relates_exec line shell).bind fun r => ?_
    obtain ⟨answer, shell⟩ := r
    have hmore : (¬∃ image, answer = .ok (.replaced image)) → Proc.Relates p
        (AlikeAfter p (∃ image, answer = .ok (.replaced image)))
        (do
          let (answers, shell) ← (execAll rest).run shell
          return (answer :: answers, shell)) fun _ => Alike p := fun hstays =>
      ((ih shell).mono (fun _ _ h => h.2 hstays) fun _ _ _ h => h).bind fun _ =>
        Proc.relates_pure fun _ _ h => h
    rcases answer with e | flow
    · exact hmore (not_replaced_of_error e Flow.replaced)
    · cases flow with
      | replaced image => exact Proc.relates_pure fun _ _ h => h.1
      | proceed => exact hmore fun ⟨_, h⟩ => nomatch h
      | exit => exact hmore fun ⟨_, h⟩ => nomatch h

end Shell

/-! ### What becomes visible -/

namespace World

variable {w : World}

/-- The log, if there is one, goes to a file that nobody can run, or to a device. -/
structure LogsTo (p : Log.Place) (w : World) : Prop where
  log : w.log = p.sink
  holdsLog : w.HoldsLog p
  leads : ∀ d ∈ p.description, ∃ channel, w.machine.channel? d = some channel ∧ p.Hides channel
  inert : ∀ i ∈ p.file, ∃ n, w.machine.tree.node? i = some n ∧
    n.permissions.allows .execute = false

/-- A world is alike to itself where other changes of the interrupt action and other waits are
refused, whatever its programs are. -/
theorem LogsTo.paired (h : w.LogsTo p) {faults : CallKind → Nat → Option Errno}
    (hfaults : ∀ kind, ¬kind.IsTolerated → faults kind = w.faults kind) (userland : Userland) :
    w.Paired p { w with faults := faults, userland := userland } := by
  refine ⟨?_, h.holdsLog⟩
  exact
    { self := rfl
      machine := ⟨⟨fun _ => .inl rfl, h.inert⟩, fun _ => rfl, rfl, rfl, rfl, h.leads⟩
      children := rfl
      nextPid := rfl
      directories := rfl
      faults := hfaults
      calls := rfl
      endings := rfl
      polls := rfl
      trace := rfl
      log := ⟨h.log, h.log⟩ }

end World

namespace Shell

/-- **Whether changes of the interrupt action and waits are refused shows nowhere** but in the
interrupts themselves and in the log. Each line has the same answer, and the shell remembers the
same. The worlds are alike: what was written to the output and to the error output, the files, the
directory and the variables of the process, and the calls and events in their order are the same.

The programs may be others in the second world, as they are if refusals concern them too. They have
to end alike in the contexts in which the two runs start them. -/
theorem execAll_tolerates {w : World} {faults : CallKind → Nat → Option Errno}
    {userland : Userland} (hfaults : ∀ kind, ¬kind.IsTolerated → faults kind = w.faults kind)
    (hlog : w.LogsTo p) (lines : List Text) (shell : Shell)
    (hprograms : ProgramsAgree p w.userland userland (((execAll lines).run shell).run w).2.trace
      (((execAll lines).run shell).run
        { w with faults := faults, userland := userland }).2.trace) :
    let r := ((execAll lines).run shell).run w
    let r' := ((execAll lines).run shell).run { w with faults := faults, userland := userland }
    r'.1 = r.1 ∧ r.2.Alike p r'.2 :=
  (relates_execAll lines shell).related w _ (hlog.paired hfaults userland) hprograms

end Shell

namespace World

/-- What is refused where changes of the interrupt action and waits are refused too. -/
def refusing (w : World) : CallKind → Nat → Option Errno
  | .signalAction, _ => some .notPermitted
  | .wait, _ => some .noChild
  | kind, n => w.faults kind n

theorem refusing_eq (w : World) (kind : CallKind) (h : ¬kind.IsTolerated) :
    w.refusing kind = w.faults kind := by
  cases kind with
  | signalAction => exact absurd (.inl rfl) h
  | wait => exact absurd (.inr rfl) h
  | _ => rfl

/-- The world where changes of the interrupt action and waits are refused. -/
def adverse (w : World) : World := { w with faults := w.refusing }

/-- A world with an input and with one program, and with a log of warnings in a file that may hold
something and may be run. -/
def recorded (program : Call Status) (content : Bytes) (bits : Nat) : World :=
  let first := start ⟨[⟨.directory [(bytesOf "p", 1), (bytesOf "t", 2)] FileTree.root true,
      .own 0o755⟩, ⟨.program (Text.lit "p"), .own 0o755⟩, ⟨.file content, .own bits⟩]⟩
    FileTree.root [] (.standard none) (fun _ => program) (.bytes (bytesOf "hi"))
  { first with
    self := { first.self with descriptors := first.self.descriptors ++ [(3, ⟨3, true⟩)] }
    machine := { first.machine with
      descriptions := first.machine.descriptions ++ [⟨.node 2, 0, true, false, true⟩] }
    log := some ⟨.upTo .warn, 3, Text.lit "2025"⟩ }

end World

/-- A program that copies what it reads at a number. -/
def Call.copy (fd : Nat) : Call Status := do
  match ← Call.peek fd with
  | .error _ => return .exited 1
  | .ok s =>
    let _ ← Call.write Execution.stdout s.bytes
    return .exited 0

/-- A program that copies a file. -/
def Call.copyFile (path : Bytes) : Call Status := do
  match ← Call.openFile path .reading with
  | .error _ => return .exited 1
  | .ok fd => copy fd

/-- A program that copies ends alike, if it does not read the log. -/
theorem Call.endAlike_copy {c c' : Context} (h : c.Alike p c') {fd : Nat}
    (hapart : ∀ handle ∈ Table.get? fd c.self.descriptors,
      ∀ channel ∈ c.machine.channel? handle.description, p.file.map Channel.node ≠ some channel) :
    EndAlike p (copy fd) (copy fd) c c' := by
  obtain ⟨r, hrun, hrun'⟩ := run_peek_alike h hapart
  unfold EndAlike copy
  rw [run_bind, run_bind, hrun, hrun']
  cases r with
  | error e => exact ⟨rfl, h.machine⟩
  | ok s =>
    have hwrites := ((respects_write Execution.stdout s.bytes).bind fun _ =>
      respects_pure (p := p) (Status.exited 0)) c c' h
    exact ⟨hwrites.1, hwrites.2.machine⟩

namespace World

/-- A world whose program copies its input. -/
def copying : World := recorded (Call.copy Execution.stdin) [] 0o644

/-- The place of its log. -/
def copyingLog : Log.Place := ⟨copying.log, some 3, some 2⟩

theorem logsTo_copying : copying.LogsTo copyingLog := by
  refine ⟨rfl, fun sink hsink => ?_, fun d hd => ?_, fun i hi => ?_⟩
  · cases hsink
    exact ⟨⟨3, true⟩, rfl, rfl⟩
  · cases hd
    exact ⟨.node 2, rfl, .inl rfl⟩
  · cases hi
    exact ⟨_, rfl, by decide⟩

end World

namespace Shell

/-- What the lines leave when a shell in the root directory executes them. -/
def after (lines : List Text) (w : World) : World :=
  (((execAll lines).run ⟨[Path.slash], 2⟩).run w).2

/-- Two copies in a pipeline, a directory that is not there, and an exit. -/
def copyingLines : List Text := [Text.lit "/p | /p", Text.lit "cd /x", Text.lit "exit"]

/-- Programs that read are among those that the refusals leave alone. -/
theorem execAll_tolerates_recorded :
    let w := World.copying
    let r := ((execAll copyingLines).run ⟨[Path.slash], 2⟩).run w
    let r' := ((execAll copyingLines).run ⟨[Path.slash], 2⟩).run
      { w with faults := w.refusing, userland := w.userland }
    (r'.1 = r.1 ∧ r.2.Alike World.copyingLog r'.2) ∧
      (after copyingLines w).machine.out = bytesOf "hi" ∧
      (after copyingLines w.adverse).machine.tree ≠ (after copyingLines w).machine.tree := by
  -- Neither copy reads the log: one reads the input, the other one the pipe.
  have hapart : ∀ e ∈ (((execAll copyingLines).run ⟨[Path.slash], 2⟩).run World.copying).2.trace,
      ∀ run ∈ e.awaited?, ∀ handle ∈ Table.get? Execution.stdin run.2.self.descriptors,
        ∀ channel ∈ run.2.machine.channel? handle.description,
          some (Channel.node 2) ≠ some channel := by decide +kernel
  refine ⟨@execAll_tolerates World.copyingLog World.copying World.copying.refusing
    World.copying.userland World.copying.refusing_eq World.logsTo_copying copyingLines
    ⟨[Path.slash], 2⟩ ?_, by decide +kernel, by decide +kernel⟩
  intro i e e' image c c' he _ hawaited _ hc
  exact Call.endAlike_copy hc
    (hapart e (List.mem_reverse.1 (List.mem_of_getElem? he)) _ hawaited)

/-- A program that prints the log tells of the refusals, and so does the log when it is run. -/
theorem execAll_tolerates_log :
    let printed := World.recorded (Call.copyFile (bytesOf "/t")) [] 0o644
    let ran := World.recorded (Call.copy Execution.stdin) (bytesOf "#!/p") 0o755
    let printing := [Text.lit "/p", Text.lit "/p"]
    let running := [Text.lit "/p", Text.lit "/t"]
    ((after printing printed).machine.out = [] ∧
      (after printing printed.adverse).machine.out ≠ []) ∧
    (after running ran).machine.out = bytesOf "hihi" ∧
      (after running ran.adverse).machine.out ≠ bytesOf "hihi" :=
  ⟨⟨by decide +kernel, by decide +kernel⟩, by decide +kernel, by decide +kernel⟩

end Shell

end LineShell
