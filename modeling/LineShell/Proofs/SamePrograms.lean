import LineShell.Proofs.AlikeWorlds
import LineShell.Proofs.Answers
import LineShell.Proofs.Planning
/-!
# Becoming a program, and running it in a child

With `exec` in front of it a command takes the place of the shell; without, it runs in a child. The
two ways begin with vectors that differ by one slot, and the cap by one: `ArgVector.ofSegment_cons`
says that nothing else about them does.

`World.startOf` is the program that arguments start in a world. It is the same in a child and in the
shell itself (`startOf_congr`), since both seek it in the same directories of the same tree. The
headline is `Builtin.exec_agrees`: what the two ways come to, side by side.
-/

namespace LineShell

/-! ### One word more -/

namespace ArgVector

variable {word : Text}

theorem segmentWords_cons (hword : Text.IsWord word) (hcomment : '#' ∉ word) (rest : Text) :
    segmentWords (word ++ ' ' :: rest) = word :: segmentWords rest := by
  obtain ⟨hfree, hrest⟩ := (isCode_iff rest _).2 rfl
  have hcode : word ++ ' ' :: code rest = code (word ++ ' ' :: rest) := by
    refine (isCode_iff _ _).1 ⟨by simp [hcomment, hfree], ?_⟩
    rcases hrest with hrest | ⟨comment, hrest⟩
    · exact .inl (by rw [← hrest])
    · refine .inr ⟨comment, ?_⟩
      rw [List.append_assoc, List.cons_append, ← hrest]
  unfold segmentWords
  rw [← hcode, Text.words_append_blank (by decide), Text.words_singleton hword.1 hword.2]
  rfl

/-- **A word in front takes one slot more**, and moves the others by one. -/
theorem ofSegment_cons (hword : Text.IsWord word) (hcomment : '#' ∉ word)
    (hplain : ∀ name, word ≠ '$' :: name) (vars : Text → Option Text) (cap : Nat) (rest : Text) :
    ofSegment vars (cap + 1) (word ++ ' ' :: rest) =
      let t := ofSegment vars cap rest
      ⟨⟨some word :: t.vector.slots⟩, t.dropped⟩ := by
  rw [ofSegment_eq, ofSegment_eq, segmentWords_cons hword hcomment, List.take_succ_cons,
    List.map_cons, slot_of_plain vars hplain]
  rfl

/-- There is no command behind an absent slot. -/
theorem isEmpty_of_absent {v : ArgVector} (h : v.slots[0]? = some none) : v.isEmpty := by
  obtain ⟨slots⟩ := v
  cases slots with
  | nil => cases h
  | cons slot slots =>
    cases h
    rfl

/-- A vector with a command has arguments. -/
theorem args_ne_nil {v : ArgVector} (h : ¬v.isEmpty) : v.args ≠ [] := by
  obtain ⟨slots⟩ := v
  match slots with
  | [] => exact absurd rfl h
  | none :: _ => exact absurd rfl h
  | some value :: rest => exact List.cons_ne_nil value (present rest)

end ArgVector

theorem Shape.eq_code_of_ofLine {line command : Text} (h : ofLine line = .plain command) :
    command = code line := by
  have hreads := (ofCode_eq_iff (code line)).1 h
  obtain ⟨-, hcode⟩ := Line.Parts.ofCode_lawful (code line)
  match hparts : Line.Parts.ofCode (code line), hreads with
  | .plain c, hreads =>
    cases hreads
    rw [← hcode, hparts]
    rfl
  | .piped _ _ none, hreads => cases hreads
  | .piped _ _ (some _), hreads => cases hreads
  | .redirected .., ⟨_, _, hreads⟩ => cases hreads

/-- A plain line has the words of its text. -/
theorem Plan.ofLine_plain {line command : Text} (h : Shape.ofLine line = .plain command)
    (vars : Text → Option Text) (cap : Nat) :
    (ofLine vars cap line).outcome =
      .ok (ofCommand (ArgVector.ofSegment vars cap line).vector) := by
  obtain ⟨hsegments, -⟩ := Shape.ofLine_free line
  unfold ofLine
  rw [ofShape_outcome vars cap hsegments, h, Shape.eq_code_of_ofLine h, ArgVector.ofSegment_eq]
  rfl

/-! ### The program of arguments -/

namespace World

/-- The program that arguments start, or why they start none. -/
def startOf (w : World) (args : List Text) : Except Errno Image :=
  match w.refusal .exec with
  | some e => .error e
  | none => Exec.find w.toContext ((args.map Text.bytes).head?.getD []) (args.map Text.bytes)

/-- Arguments start the same program where it is sought in the same way. -/
theorem startOf_congr (w w' : World) (hrefusal : w'.refusal .exec = w.refusal .exec)
    (henvironment : w'.self.environment = w.self.environment)
    (hdirectory : w'.self.directory = w.self.directory)
    (htree : w'.machine.tree = w.machine.tree) (args : List Text) :
    w'.startOf args = w.startOf args := by
  have hfiles : Exec.SameFiles w.toContext w'.toContext := by
    refine ⟨henvironment, fun path => ?_⟩
    unfold Exec.executable
    rw [hdirectory, htree]
  unfold startOf
  rw [hrefusal, Exec.find_congr hfiles]

end World

namespace Proc

theorem answer_tryExec (args : List Text) (w : World) :
    ((tryExec args).run w).1 = w.startOf args := by
  unfold tryExec World.startOf
  cases h : w.refusal .exec with
  | some e => rw [run_attempt_refused h]
  | none =>
    rw [run_attempt_granted h, run_call]
    exact answer_exec _ _ _

end Proc

namespace Execution

variable {args : List Text} {v : ArgVector} {w : World}

/-- A start hands its arguments over as they are, in the process as it is. -/
theorem start_hands (hne : args ≠ []) (w : World) :
    ((start args).run w).1 = w.startOf args ∧
      ((start args).run w).2.trace = .started args w.self (w.startOf args) :: w.trace := by
  unfold start
  rw [if_neg (by simpa using hne), Proc.run_exec]
  dsimp only
  rw [Proc.answer_tryExec]
  refine ⟨rfl, ?_⟩
  have htrace : ((Proc.tryExec args).run w).2.trace = w.trace := by
    rcases tryExec_cases args w with ⟨e, h⟩ | ⟨image, h⟩ <;> rw [h] <;> rfl
  show _ :: ((Proc.tryExec args).run w).2.trace = _
  rw [htrace]

theorem replaceImage_of_nul {t : Text} (h : Text.firstNul? v.args = some t) (w : World) :
    (replaceImage v).run w = (.error (.nulByte t), w) := by
  unfold replaceImage
  rw [argv_of_nul h]
  rfl

theorem runSimple_of_nul {t : Text} (h : Text.firstNul? v.args = some t) (w : World) :
    (runSimple v).run w = (.error (.nulByte t), w) := by
  unfold runSimple
  rw [argv_of_nul h]
  rfl

/-- The world behind the reset of the signal actions starts the same program. -/
theorem startOf_reset (w : World) (args : List Text) :
    (w.altered w.resetInterrupts [] (.signalAction :: w.calls)).startOf args = w.startOf args :=
  World.startOf_congr w (w.altered w.resetInterrupts [] (.signalAction :: w.calls)) rfl rfl rfl rfl
    args

/-- **In the place of the shell**, arguments are handed over once; where nothing starts the shell
goes on. -/
theorem replaceImage_hands (hargs : argv v = .ok args) (hne : args ≠ []) (w : World) :
    ((replaceImage v).run w).1 = (w.startOf args).mapError (.ofExec (program args)) ∧
      ((replaceImage v).run w).2.trace =
        .started args { w.self with interrupts := w.resetInterrupts } (w.startOf args) ::
          w.trace := by
  -- The world in which the signal actions are reset, where the start is made.
  let x := w.altered w.resetInterrupts [] (.signalAction :: w.calls)
  obtain ⟨hanswer, htrace⟩ := start_hands hne x
  rw [startOf_reset] at hanswer htrace
  have hrun : (replaceImage v).run w =
      match (start args).run x with
      | (.ok image, y) => (.ok image, y)
      | (.error e, y) => (resuming (.ofExec (program args) e)).run y := by
    unfold replaceImage
    rw [hargs]
    dsimp only
    rw [run_bind, Signals.run_resetForChild, run_bind]
    show _ = match ((start args).run x) with | (.ok image, y) => _ | (.error e, y) => _
    rcases (start args).run x with ⟨e | image, y⟩ <;> rfl
  rw [hrun]
  generalize (start args).run x = r at hanswer htrace
  obtain ⟨answer, y⟩ := r
  dsimp only at hanswer htrace
  subst hanswer
  cases hstart : w.startOf args with
  | ok image =>
    rw [hstart] at htrace
    exact ⟨rfl, htrace⟩
  -- Nothing has started: what the shell resumes leaves no event behind the start.
  | error e =>
    rw [hstart] at htrace
    obtain ⟨records, hresume⟩ := run_resuming (.ofExec (program args) e) y
    dsimp only
    rw [hresume]
    exact ⟨rfl, htrace⟩

/-- What becomes of a child that has tried to start a program. -/
def fateOf : Except Errno Image → Fate
  | .ok image => .running image
  | .error _ => .ended (.exited 0)

/-- **In a child**, arguments are handed over once as well. -/
theorem simpleChild_hands (hne : args ≠ []) (w : World) :
    ((simpleChild args).run w).1 = fateOf (w.startOf args) ∧
      ((simpleChild args).run w).2.trace =
        .started args { w.self with interrupts := w.resetInterrupts } (w.startOf args) :: w.trace ∧
      ((simpleChild args).run w).2.self.pid = w.self.pid ∧
      ((simpleChild args).run w).2.children = w.children := by
  let x := w.altered w.resetInterrupts [] (.signalAction :: w.calls)
  obtain ⟨hanswer, htrace⟩ := start_hands hne x
  rw [startOf_reset] at hanswer htrace
  have hsteps : World.ChildSteps args x ((start args).run x).2 := byChild_start args x
  -- The same reset and the same start as in the place of the shell, but a report in the end.
  have hrun : (simpleChild args).run w =
      match (start args).run x with
      | (.ok image, y) => (.running image, y)
      | (.error _, y) => (report (simpleDiagnostic args)).run y := by
    unfold simpleChild startOr
    rw [run_bind, Signals.run_resetForChild, run_bind]
    show _ = match ((start args).run x) with | (.ok image, y) => _ | (.error _, y) => _
    rcases (start args).run x with ⟨e | image, y⟩ <;> rfl
  rw [hrun]
  generalize (start args).run x = r at hanswer htrace hsteps
  obtain ⟨answer, y⟩ := r
  dsimp only at hanswer htrace hsteps
  subst hanswer
  cases hstart : w.startOf args with
  | ok image =>
    rw [hstart] at htrace
    exact ⟨rfl, htrace, hsteps.pid, hsteps.children⟩
  | error e =>
    rw [hstart] at htrace
    dsimp only
    unfold report
    rw [run_bind, Proc.run_write]
    exact ⟨rfl, htrace, hsteps.pid, hsteps.children⟩

/-- A wait is noted with the process that waits and its children. -/
theorem trace_waitFor (pid : Nat) (w : World) :
    ((waitFor pid).run w).2.trace = (w.awaiting pid).trace := by
  have hwait : ((Proc.waitFor pid).run w).2.trace = (w.awaiting pid).trace := by
    obtain ⟨m, children, hfinish, -⟩ := World.finishPid_eq (w.awaiting pid) pid
    rw [Proc.run_waitFor, hfinish]
    rfl
  unfold waitFor
  rw [run_bind]
  cases ((Proc.waitFor pid).run w).1 with
  | ok status =>
    dsimp only
    rw [Proc.run_log]
    exact hwait
  | error e =>
    dsimp only
    rw [Proc.run_log]
    exact hwait

theorem trace_guardedWait (pid : Nat) (w : World) :
    ∃ i machine, ((Signals.guarded (waitFor pid)).run w).2.trace =
      .waited pid { w.self with interrupts := i } w.children machine :: w.trace := by
  obtain ⟨before, after, hguarded⟩ := Signals.run_guarded (waitFor pid) w
  rw [hguarded]
  exact ⟨w.installed .ignoring, _,
    trace_waitFor pid (w.altered (w.installed .ignoring) before (.signalAction :: w.calls))⟩

/-- What running arguments in a child comes to: there is no child, or one that is waited for. -/
inductive RunsInChild (args : List Text) (w : World) : Except ShellError Unit × World → Prop
  | refused {e : Errno} (h : w.refusal .fork = some e) :
      RunsInChild args w (.error (.fork e), w.counting .fork)
  | waited {w' : World} {i : Interrupts} {process : Process} {machine : Machine}
      (h : w.refusal .fork = none) (hpid : process.pid = w.nextPid)
      (htrace : w'.trace =
        .waited w.nextPid { w.self with interrupts := i }
            (w.children ++ [⟨process, fateOf (w.startOf args)⟩]) machine ::
          .started args { w.self with
            pid := w.nextPid
            parent := w.self.pid
            interrupts := w.resetInterrupts } (w.startOf args) ::
          .forked w.nextPid :: w.trace) :
      RunsInChild args w (.ok (), w')

theorem runsInChild_runSimple (hargs : argv v = .ok args) (hne : args ≠ []) (w : World) :
    RunsInChild args w ((runSimple v).run w) := by
  unfold runSimple
  rw [hargs]
  dsimp only
  rw [run_bind]
  cases hrefusal : w.refusal .fork with
  | some e =>
    rw [Proc.run_fork_refused hrefusal]
    exact .refused hrefusal
  | none =>
    obtain ⟨hfate, htrace, hpid, hchildren⟩ := simpleChild_hands hne w.asChild
    -- A child finds the same programs as the shell that it was forked from.
    have hstart : w.asChild.startOf args = w.startOf args :=
      World.startOf_congr w w.asChild rfl rfl rfl rfl args
    rw [hstart] at hfate htrace
    rw [Proc.run_fork_granted hrefusal]
    dsimp only
    rw [run_bind, Proc.run_log, run_bind]
    generalize (simpleChild args).run w.asChild = r at hfate htrace hpid hchildren
    obtain ⟨fate, y⟩ := r
    dsimp only at hfate htrace hpid hchildren ⊢
    subst hfate
    -- The wait is the last event, with the child among the children of the shell.
    obtain ⟨i, machine, hwait⟩ := trace_guardedWait w.nextPid
      (World.noting { y with
        self := w.self
        children := y.children ++ [⟨y.self, fateOf (w.startOf args)⟩] }
          [⟨.debug, source, Text.lit "spawned",
            [Log.Record.count "pid" w.nextPid, Log.Record.field "command" (program args)]⟩])
    refine @RunsInChild.waited args w _ i y.self machine hrefusal hpid (hwait.trans ?_)
    show Event.waited _ _ (y.children ++ _) _ :: y.trace = _
    rw [hchildren, htrace]
    rfl

end Execution

/-! ### Side by side -/

namespace Builtin

open ArgVector Execution

variable {vars : Text → Option Text} {cap : Nat} {rest : Text}

theorem ofSegment_exec (vars : Text → Option Text) (cap : Nat) (rest : Text) :
    ofSegment vars (cap + 1) (Text.lit "exec " ++ rest) =
      let u := ofSegment vars cap rest
      ⟨⟨some (Text.lit "exec") :: u.vector.slots⟩, u.dropped⟩ := by
  have hfree : ∀ c ∈ Text.lit "exec", Text.isBlank c = false := by simp [Text.isBlank, Text.lit]
  have hword : Text.IsWord (Text.lit "exec") := ⟨by decide, hfree⟩
  have hplain : ∀ name, Text.lit "exec" ≠ '$' :: name := fun name h => nomatch h
  exact ofSegment_cons hword (by decide) hplain vars cap rest

/-- What becoming a program comes to. -/
structure Replaces (args : List Text) (shell : Shell) (w : World)
    (out : (Except ShellError Outcome × Shell) × World) : Prop where
  answer : out.1 = (match w.startOf args with
    | .ok image => .ok (.replaced image)
    | .error e => .error (.ofExec (program args) e), shell)
  trace : out.2.trace =
    .started args { w.self with interrupts := w.resetInterrupts } (w.startOf args) :: w.trace

theorem start_dispatch_exec (slots : List (Option Text)) (shell : Shell) (w : World) :
    ((dispatch ⟨some (Text.lit "exec") :: slots⟩).start shell).run w =
      if (ArgVector.mk slots).isEmpty then
        ((.ok .handled, shell), w.noting [Shell.dispatchRecord (Text.lit "exec") .handled])
      else
        let r := (replaceImage ⟨slots⟩).run w
        ((r.1.map .replaced, shell), r.2) := by
  have hcommand : command? ⟨some (Text.lit "exec") :: slots⟩ = some (Text.lit "exec") := rfl
  have hshifted : shifted ⟨some (Text.lit "exec") :: slots⟩ 1 = ⟨slots⟩ := rfl
  rw [start_dispatch hcommand, run_exec, start_exec, hshifted]
  by_cases hempty : (ArgVector.mk slots).isEmpty = true
  · rw [if_pos hempty, if_pos hempty]
  · rw [if_neg hempty, if_neg hempty]
    dsimp only
    cases ((replaceImage ⟨slots⟩).run w).1 <;> rfl

/-- **`exec` and a plain command run the same program.** The vector of a text with `exec` in front
of it is that of the text with one slot more, if it may have one more. Without a command nothing
happens either way. With one, the first argument with a NUL character is the answer of both, and
nothing has happened; or, if there is none, the same arguments are handed over once, with the same
outcome, by the shell itself or by a child that it waits for, and with the signal actions reset. -/
theorem exec_agrees (vars : Text → Option Text) (m : Nat) (rest : Text) (shell : Shell)
    (w : World) :
    let v := ofSegment vars (m + 1) (Text.lit "exec " ++ rest)
    let u := ofSegment vars m rest
    let replaced := ((dispatch v.vector).start shell).run w
    let ran := (runSimple u.vector).run w
    (v.vector.shifted 1 = u.vector ∧ v.dropped = u.dropped ∧
      v.vector.args = Text.lit "exec" :: u.vector.args) ∧
    (v.vector.slots[1]? = some none → u.vector.isEmpty) ∧
    (u.vector.isEmpty →
      replaced =
        ((.ok .handled, shell), w.noting [Shell.dispatchRecord (Text.lit "exec") .handled]) ∧
      ∀ command, Shape.ofLine rest = .plain command →
        (Plan.ofLine vars m rest).outcome = .ok none) ∧
    (¬u.vector.isEmpty →
      (∀ t, Text.firstNul? u.vector.args = some t →
        replaced = ((.error (.nulByte t), shell), w) ∧ ran = (.error (.nulByte t), w)) ∧
      (Text.firstNul? u.vector.args = none →
        Replaces u.vector.args shell w replaced ∧ RunsInChild u.vector.args w ran ∧
          w.resetInterrupts.sigpipe = .default ∧
          (w.refusal .signalAction = none → w.resetInterrupts.sigint = .default))) := by
  intro v u replaced ran
  -- The first slot of the longer vector is the word `exec`, and the others are those of the text.
  have hv : v = ⟨⟨some (Text.lit "exec") :: u.vector.slots⟩, u.dropped⟩ :=
    ofSegment_exec vars m rest
  have hreplaced : replaced = _ :=
    congrArg (fun t : Tokenized => ((dispatch t.vector).start shell).run w) hv
  dsimp only at hreplaced
  rw [start_dispatch_exec] at hreplaced
  refine ⟨?_, fun habsent => ?_, fun hempty => ⟨?_, fun command hplain => ?_⟩, fun hcommand => ?_⟩
  · rw [hv]
    exact ⟨rfl, rfl, rfl⟩
  · rw [hv] at habsent
    exact isEmpty_of_absent habsent
  · rw [hreplaced, if_pos hempty]
  · rw [Plan.ofLine_plain hplain, Plan.ofCommand, if_pos hempty]
  -- From here on there is a command, and the two differ only in who runs it.
  rw [if_neg hcommand] at hreplaced
  refine ⟨fun t hnul => ⟨?_, runSimple_of_nul hnul w⟩, fun hnul => ?_⟩
  · rw [hreplaced, replaceImage_of_nul hnul w]
    rfl
  have hargs := argv_of_free hnul
  have hne := args_ne_nil hcommand
  obtain ⟨hanswer, htrace⟩ := replaceImage_hands hargs hne w
  refine ⟨?_, runsInChild_runSimple hargs hne w, World.sigpipe_resetInterrupts w,
    fun hgranted => ?_⟩
  · rw [hreplaced]
    refine ⟨?_, htrace⟩
    show (Except.map _ ((replaceImage u.vector).run w).1, shell) = _
    rw [hanswer]
    cases w.startOf u.vector.args <;> rfl
  · unfold World.resetInterrupts
    rw [hgranted]

end Builtin

end LineShell
