import LineShell.Proofs.Launches
import LineShell.Proofs.Planning
/-!
# Answers of plans

What running a plan in children answers is decided before any child does anything: by the texts of
the plan, by the pipe, and by the forks, in this order. `Plan.answer` is that decision, and children
can only fail for themselves.

What a child does get from the plan are the effective arguments of its stage. `Event.PassesArgs` says
so of the starts of programs, and `Execution.SaysBlank` of a stage that has no arguments.

The headline is `Shell.run_answers`.
-/

namespace LineShell

/-! ### Texts with NUL characters -/

/-- The first text that holds a NUL character. -/
def Text.firstNul? (ts : List Text) : Option Text := ts.find? fun t => t.contains '\x00'

namespace Execution

theorem withoutNul_of_contains {t : Text} (h : t.contains '\x00' = true) :
    withoutNul t = .error (.nulByte t) := by
  unfold withoutNul
  rw [if_pos h]

theorem withoutNul_of_free {t : Text} (h : t.contains '\x00' = false) : withoutNul t = .ok t := by
  unfold withoutNul
  rw [h]
  rfl

/-- **Texts are passed on as they are**, unless one holds a NUL character; the first of these is in
the error. -/
theorem mapM_withoutNul (ts : List Text) :
    ts.mapM withoutNul = match Text.firstNul? ts with
      | some t => .error (.nulByte t)
      | none => .ok ts := by
  induction ts with
  | nil => rfl
  | cons t ts ih =>
    rw [List.mapM_cons, ih]
    unfold Text.firstNul?
    rw [List.find?_cons]
    cases hnul : t.contains '\x00' with
    | true =>
      rw [withoutNul_of_contains hnul]
      rfl
    | false =>
      rw [withoutNul_of_free hnul]
      cases ts.find? fun t => t.contains '\x00' <;> rfl

theorem argv_of_nul {v : ArgVector} {t : Text} (h : Text.firstNul? v.args = some t) :
    argv v = .error (.nulByte t) := by
  unfold argv
  rw [mapM_withoutNul, h]

theorem argv_of_free {v : ArgVector} (h : Text.firstNul? v.args = none) : argv v = .ok v.args := by
  unfold argv
  rw [mapM_withoutNul, h]

end Execution

/-! ### The decision -/

namespace World

/-- Why the first of the next forks that fails does, if one of so many does. -/
def forkFailure? (w : World) (n : Nat) : Option Errno :=
  (List.range' (w.calls.count .fork) n).findSome? (w.faults .fork)

/-- Why a pipe cannot be made, if that is so. -/
def pipeFailure? (w : World) : Option Errno :=
  match (Proc.pipe.run w).1 with
  | .error e => some e
  | .ok _ => none

end World

namespace Plan

/-- The texts that a plan passes on, in the order in which they are looked at: the effective
arguments of its stages, and its target. -/
def texts (p : Plan) : List Text := p.stages.flatMap ArgVector.args ++ p.target?.toList

theorem firstNul?_simple (v : ArgVector) :
    Text.firstNul? (simple v).texts = Text.firstNul? v.args := by
  simp [texts, stages, target?]

theorem firstNul?_pipeline (left right : ArgVector) :
    Text.firstNul? (pipeline left right).texts =
      (Text.firstNul? left.args).or (Text.firstNul? right.args) := by
  simp [texts, stages, target?, Text.firstNul?]

theorem firstNul?_redirect (v : ArgVector) (target : Text) (mode : RedirectMode) :
    Text.firstNul? (redirect v target mode).texts =
      (Text.firstNul? v.args).or (if target.contains '\x00' then some target else none) := by
  simp [texts, stages, target?, Text.firstNul?, List.find?_singleton]

/-- Why the pipe of a plan cannot be made, if it needs one. -/
def pipeFailure? (w : World) : Plan → Option Errno
  | .pipeline _ _ => w.pipeFailure?
  | _ => none

/-- What running a plan in children answers. -/
def answer (w : World) (p : Plan) : Except ShellError Unit :=
  match Text.firstNul? p.texts with
  | some t => .error (.nulByte t)
  | none =>
    match p.pipeFailure? w with
    | some e => .error (.pipe e)
    | none =>
      match w.forkFailure? p.stages.length with
      | some e => .error (.fork e)
      | none => .ok ()

end Plan

/-! ### What a child gets from the plan -/

/-- A program starts only in the child of a stage that has effective arguments. It is given all of
them, and nothing else, byte for byte and in their order, and what starts is what the first of them
is found as. -/
def Event.PassesArgs (first : Nat) (stages : List ArgVector) : Event → Prop
  | .started words caller result => ∃ i v, stages[i]? = some v ∧ caller.pid = first + i ∧
    words = v.args ∧ words ≠ [] ∧ ∀ image, result = .ok image → caller.Finds words image
  | _ => True

namespace World

variable {first : Nat} {stages : List ArgVector} {u v w : World}

/-- All programs that have started meanwhile were given the arguments of their stage. -/
def Passes (first : Nat) (stages : List ArgVector) (w v : World) : Prop :=
  ∃ made, v.trace = made ++ w.trace ∧ ∀ e ∈ made, e.PassesArgs first stages

theorem Passes.of_trace (h : v.trace = w.trace) : Passes first stages w v :=
  ⟨[], h, fun _ he => absurd he List.not_mem_nil⟩

theorem Passes.trans (h : Passes first stages u v) (h' : Passes first stages v w) :
    Passes first stages u w := by
  obtain ⟨made, htrace, hmade⟩ := h
  obtain ⟨made', htrace', hmade'⟩ := h'
  refine ⟨made' ++ made, by rw [htrace', htrace, List.append_assoc], fun e he => ?_⟩
  rcases List.mem_append.1 he with he | he
  · exact hmade' e he
  · exact hmade e he

/-- **A child gets the arguments of its stage.** -/
theorem Forked.passes {i : Nat} {x : ArgVector} (h : Forked x.args w v)
    (hstage : stages[i]? = some x) (hpid : w.nextPid = first + i) : Passes first stages w v := by
  obtain ⟨made, htrace, hmade⟩ := h.trace
  refine ⟨made ++ [.forked w.nextPid], by rw [htrace, List.append_assoc]; rfl, fun e he => ?_⟩
  rcases List.mem_append.1 he with he | he
  · have hof := (hmade e he).1
    cases e with
    | started words caller result =>
      obtain ⟨⟨rfl, hcaller⟩, hne, hfinds⟩ := hof
      exact ⟨i, x, hstage, hcaller.trans hpid, rfl, hne, hfinds⟩
    | forked | waited | polled | opened | piped => trivial
  · rw [List.mem_singleton.1 he]
    trivial

theorem Waited.passes {pids : List Nat} (h : Waited pids w v) : Passes first stages w v := by
  obtain ⟨made, htrace, -, hmade⟩ := h.trace
  refine ⟨made, htrace, fun e he => ?_⟩
  obtain ⟨pid, children, machine, rfl⟩ := hmade e he
  trivial

end World

/-! ### Launches -/

namespace Execution

open World

variable {w : World}

/-- What asking for so many forks answers. -/
def forkAnswer (w : World) (n : Nat) : Except ShellError Unit :=
  match w.forkFailure? n with
  | some e => .error (.fork e)
  | none => .ok ()

theorem forkFailure?_one (w : World) : w.forkFailure? 1 = w.refusal .fork := by
  unfold forkFailure? refusal
  rw [List.range'_one, List.findSome?_singleton]

theorem forkFailure?_two (w : World) :
    w.forkFailure? 2 =
      (w.refusal .fork).or (w.faults .fork (w.calls.count .fork + 1)) := by
  unfold forkFailure? refusal
  rw [List.range'_succ, List.range'_one, List.findSome?_cons, List.findSome?_singleton]
  cases w.faults .fork (w.calls.count .fork) <;> rfl

/-- One child: the answer is that of the fork. -/
theorem launchOne_answer {v : ArgVector} {body : Proc Fate} (hbody : IsChild v.args body)
    (record : Nat → Log.Record) (w : World) :
    let r := (launchOne body record).run w
    r.1.1 = forkAnswer w 1 ∧ Passes w.nextPid [v] w r.2 := by
  unfold forkAnswer
  rw [forkFailure?_one]
  cases hrefusal : w.refusal .fork with
  | some e =>
    rw [launchOne_refused hrefusal]
    exact ⟨rfl, .of_trace rfl⟩
  | none =>
    obtain ⟨u, hrun, hfork⟩ := Proc.forked_of_isChild hrefusal hbody
    rw [launchOne_granted hrun]
    exact ⟨rfl, (hfork.passes (i := 0) rfl rfl).trans (.of_trace rfl)⟩

/-- Two children: the answer is that of the first fork that fails. -/
theorem launchStages_answer (left right : ArgVector) (readEnd writeEnd : Nat) (w : World) :
    let r := (launchStages left.args right.args readEnd writeEnd).run w
    r.1.1 = forkAnswer w 2 ∧ Passes w.nextPid [left, right] w r.2 := by
  unfold launchStages forkAnswer
  rw [run_bind, forkFailure?_two]
  cases hfirst : w.refusal .fork with
  | some e =>
    rw [Proc.run_fork_refused hfirst]
    exact ⟨rfl, .of_trace rfl⟩
  | none =>
    obtain ⟨u, hrun, hfork⟩ :=
      Proc.forked_of_isChild hfirst (isChild_writerChild left.args readEnd writeEnd)
    have hwriter : Passes w.nextPid [left, right] w u := hfork.passes (i := 0) rfl rfl
    -- the first child has asked for no fork, so that the second one is the next
    have hnext : w.faults .fork (w.calls.count .fork + 1) = u.refusal .fork := by
      unfold World.refusal
      rw [hfork.faults, hfork.forks]
    rw [hrun, hnext, Option.none_or]
    dsimp only
    rw [run_bind]
    cases hsecond : u.refusal .fork with
    | some e =>
      rw [Proc.run_fork_refused hsecond]
      exact ⟨rfl, hwriter.trans (.of_trace rfl)⟩
    | none =>
      obtain ⟨x, hrun', hfork'⟩ :=
        Proc.forked_of_isChild hsecond (isChild_readerChild right.args readEnd writeEnd)
      rw [hrun']
      dsimp only
      rw [run_bind, run_closeEnds, run_bind, Proc.run_log]
      exact ⟨rfl, hwriter.trans ((hfork'.passes (i := 1) rfl hfork.nextPid).trans (.of_trace rfl))⟩

/-- Makes the children of a plan without a look at its texts. -/
def launchUnchecked : Plan → Proc (Except ShellError Unit × List Nat)
  | .simple v => launchOne (simpleChild v.args) (simpleRecord v.args)
  | .pipeline left right => do
    match ← Proc.pipe with
    | .error e => return (.error (.pipe e), [])
    | .ok (readEnd, writeEnd) => launchStages left.args right.args readEnd writeEnd
  | .redirect v target mode =>
    launchOne (redirectChild v.args target mode) (redirectRecord v.args target mode)

/-- **The texts of a plan are looked at first**, in their order, and then its children are made. -/
theorem launch_eq (p : Plan) :
    launch p = match Text.firstNul? p.texts with
      | some t => pure (.error (.nulByte t), [])
      | none => launchUnchecked p := by
  cases p with
  | simple v =>
    rw [Plan.firstNul?_simple]
    unfold launch launchUnchecked
    dsimp only
    cases hargs : Text.firstNul? v.args with
    | some t => rw [argv_of_nul hargs]
    | none => rw [argv_of_free hargs]
  | pipeline left right =>
    rw [Plan.firstNul?_pipeline]
    unfold launch launchUnchecked
    dsimp only
    cases hleft : Text.firstNul? left.args with
    | some t => rw [argv_of_nul hleft, Option.some_or]
    | none =>
      rw [argv_of_free hleft, Option.none_or]
      cases hright : Text.firstNul? right.args with
      | some t => rw [argv_of_nul hright]
      | none =>
        have hreader := argv_of_free hright
        -- With both stages free the two sides are the same once the second vector is known.
        generalize argv right = reader at hreader ⊢
        subst hreader
        rfl
  | redirect v target mode =>
    rw [Plan.firstNul?_redirect]
    unfold launch launchUnchecked
    dsimp only
    cases hargs : Text.firstNul? v.args with
    | some t => rw [argv_of_nul hargs, Option.some_or]
    | none =>
      rw [argv_of_free hargs, Option.none_or]
      dsimp only
      cases htarget : target.contains '\x00' with
      | true => rw [withoutNul_of_contains htarget]; rfl
      | false => rw [withoutNul_of_free htarget]; rfl

theorem launch_of_nul {p : Plan} {t : Text} (h : Text.firstNul? p.texts = some t) (w : World) :
    (launch p).run w = ((.error (.nulByte t), []), w) := by
  rw [launch_eq, h]
  rfl

/-- **A launch answers what was decided before**, and gives each child the arguments of its stage. -/
theorem launch_answer (p : Plan) (w : World) :
    let r := (launch p).run w
    r.1.1 = p.answer w ∧ Passes w.nextPid p.stages w r.2 := by
  rw [launch_eq]
  unfold Plan.answer
  cases Text.firstNul? p.texts with
  | some t => exact ⟨rfl, .of_trace rfl⟩
  | none =>
    cases p with
    | simple v => exact launchOne_answer (isChild_simpleChild v.args) _ w
    | redirect v target mode =>
      exact launchOne_answer (isChild_redirectChild v.args target mode) _ w
    | pipeline left right =>
      unfold launchUnchecked Plan.pipeFailure? World.pipeFailure?
      dsimp only
      rw [run_bind]
      rcases Proc.pipe_cases w with ⟨e, hpipe⟩ | ⟨readEnd, writeEnd, -, hpipe⟩
      -- Without a pipe no child is made, and the refusal is all that is seen.
      · rw [hpipe]
        refine ⟨rfl, [.piped (.error e)], rfl, fun event hevent => ?_⟩
        rw [List.mem_singleton.1 hevent]
        trivial
      · rw [hpipe]
        -- The pipe comes before the children, and so passes nothing on.
        have hpiped : Passes w.nextPid [left, right] w (w.withPipe readEnd writeEnd) := by
          refine ⟨[.piped (.ok (readEnd, writeEnd))], rfl, fun event hevent => ?_⟩
          rw [List.mem_singleton.1 hevent]
          trivial
        obtain ⟨hanswer, hpasses⟩ :=
          launchStages_answer left right readEnd writeEnd (w.withPipe readEnd writeEnd)
        exact ⟨hanswer, hpiped.trans hpasses⟩

/-! ### Stages without arguments -/

/-- Making a number lead elsewhere concerns the numbers alone. -/
theorem run_duplicateTo_acted (fd target : Nat) (u : World) (t : DescriptorTable) (i : Interrupts)
    (m : Machine) (calls : List CallKind) (made : List Event) :
    ∃ t', (Proc.duplicateTo fd target).run (u.acted t i m calls made) =
      ((), u.acted t' i m calls made) := by
  cases hget : Table.get? fd t with
  | some handle =>
    -- A number that is made to lead where it leads already stays as it is.
    by_cases hne : fd = target
    · subst hne
      refine ⟨t, ?_⟩
      have hcall : (Call.duplicateTo fd fd).run (u.seeing t i m) = (.ok (), u.seeing t i m) := by
        unfold Call.duplicateTo Call.handle?
        rw [run_bind, run_bind, run_get]
        dsimp only
        rw [run_pure, show Table.get? fd (u.seeing t i m).self.descriptors = _ from hget]
        dsimp only
        rw [if_pos rfl]
        rfl
      unfold Proc.duplicateTo
      rw [run_bind, Proc.run_call_acted hcall]
      rfl
    · exact ⟨_, Proc.run_duplicateTo hget hne⟩
  -- A number that is not open is refused, and the table stays.
  | none =>
    refine ⟨t, ?_⟩
    have hcall : (Call.duplicateTo fd target).run (u.seeing t i m) =
        (.error .badDescriptor, u.seeing t i m) := by
      unfold Call.duplicateTo Call.handle?
      rw [run_bind, run_bind, run_get]
      dsimp only
      rw [run_pure, show Table.get? fd (u.seeing t i m).self.descriptors = _ from hget]
      rfl
    unfold Proc.duplicateTo
    rw [run_bind, Proc.run_call_acted hcall]
    rfl

/-- A second stage without arguments starts nothing: it reports that it is no command, and ends. -/
theorem run_readerChild_nil (readEnd writeEnd : Nat) (u : World) :
    ∃ t i calls, (readerChild [] readEnd writeEnd).run u =
      (.ended (.exited 0),
        u.acted t i (u.machine.written t stdout (stageDiagnostic 2 []).bytes) calls []) := by
  obtain ⟨i, calls, hreset⟩ := run_resetForChild_acted u
  obtain ⟨t, hduplicate⟩ := run_duplicateTo_acted readEnd stdin u
    (Table.remove writeEnd u.self.descriptors) i u.machine calls []
  refine ⟨Table.remove readEnd t, i, calls, ?_⟩
  unfold readerChild
  rw [run_bind, hreset, run_bind, Proc.run_close, run_bind, hduplicate, run_bind, Proc.run_close]
  show (report (stageDiagnostic 2 [])).run _ = _
  unfold report
  rw [run_bind, Proc.run_write_acted]
  rfl

/-- The world before the waits for two stages, the second of which has no arguments: its child has
ended, and its report, on its own output, is what was last written but for the log. -/
def SaysBlank (left : ArgVector) (w v : World) : Prop :=
  ∃ readEnd writeEnd u t i calls records,
    (Proc.fork (writerChild left.args readEnd writeEnd)).run (w.withPipe readEnd writeEnd) =
      (.ok w.nextPid, u) ∧
    v = ((u.joined (.ended (.exited 0)) t i
      (u.machine.written t stdout (stageDiagnostic 2 []).bytes) calls []).closing readEnd
        writeEnd).noting records

/-- What a pipeline needs to run: texts that can be passed on, a pipe, and two forks. -/
theorem needs_of_answer {left right : ArgVector} {w : World}
    (h : (Plan.pipeline left right).answer w = .ok ()) :
    Text.firstNul? (Plan.pipeline left right).texts = none ∧
      (∃ readEnd writeEnd, Proc.pipe.run w = (.ok (readEnd, writeEnd), w.withPipe readEnd writeEnd)) ∧
      w.refusal .fork = none ∧ w.faults .fork (w.calls.count .fork + 1) = none := by
  unfold Plan.answer Plan.pipeFailure? World.pipeFailure? at h
  split at h
  · cases h
  rename_i htexts
  dsimp only at h
  rcases Proc.pipe_cases w with ⟨e, hpipe⟩ | ⟨readEnd, writeEnd, -, hpipe⟩
  · rw [hpipe] at h
    cases h
  rw [hpipe] at h
  dsimp only at h
  split at h
  · cases h
  rename_i hforks
  rw [show (Plan.pipeline left right).stages.length = 2 from rfl, forkFailure?_two,
    Option.or_eq_none_iff] at hforks
  exact ⟨htexts, ⟨readEnd, writeEnd, hpipe⟩, hforks⟩

/-- **A second stage without arguments is reported by its child.** -/
theorem saysBlank_launch {left right : ArgVector} (hright : right.args = []) {w : World}
    (h : (Plan.pipeline left right).answer w = .ok ()) :
    let r := (launch (.pipeline left right)).run w
    r.1 = (.ok (), [w.nextPid, w.nextPid + 1]) ∧ SaysBlank left w r.2 := by
  obtain ⟨htexts, ⟨readEnd, writeEnd, hpipe⟩, hfirst, hsecond⟩ := needs_of_answer h
  have hgranted : (w.withPipe readEnd writeEnd).refusal .fork = none := hfirst
  obtain ⟨u, hrun, hfork⟩ :=
    Proc.forked_of_isChild hgranted (isChild_writerChild left.args readEnd writeEnd)
  -- The fork of the second child is the next one that the faults decide about.
  have hgranted' : u.refusal .fork = none := by
    unfold World.refusal
    rw [hfork.faults, hfork.forks]
    exact hsecond
  have hnext : u.nextPid = w.nextPid + 1 := hfork.nextPid
  -- The second child gets as far as its report and starts nothing.
  obtain ⟨t, i, calls, hchild⟩ := run_readerChild_nil readEnd writeEnd u.asChild
  rw [launch_eq, htexts]
  unfold launchUnchecked launchStages
  dsimp only
  rw [run_bind, hpipe]
  dsimp only
  rw [run_bind, hrun]
  dsimp only
  rw [run_bind, hright, Proc.run_fork_acted hgranted' hchild]
  dsimp only
  rw [run_bind, run_closeEnds, run_bind, Proc.run_log, hnext]
  exact ⟨rfl, readEnd, writeEnd, u, t, i, calls, _, hrun, rfl⟩

theorem passes_waits (first : Nat) (stages : List ArgVector) (pids : List Nat) (w : World) :
    Passes first stages w ((waits pids).run w).2 := by
  unfold waits
  split
  · exact .of_trace rfl
  · obtain ⟨before, after, hrun⟩ := Signals.run_guarded (pids.forM waitFor) w
    rw [hrun]
    have hpasses : Passes first stages (w.altered (w.installed .ignoring) before
        (.signalAction :: w.calls)) ((pids.forM waitFor).run (w.altered (w.installed .ignoring)
          before (.signalAction :: w.calls))).2 := (waited_forM pids _).passes
    exact hpasses

end Execution

/-! ### Slots that are not effective -/

namespace ArgVector

/-- The vector without its first absent slot and what is behind it. -/
def effective (v : ArgVector) : ArgVector := ⟨v.args.map some⟩

theorem args_effective (v : ArgVector) : v.effective.args = v.args := by
  have hpresent : ∀ ts : List Text, present (ts.map some) = ts := by
    intro ts
    induction ts with
    | nil => rfl
    | cons t ts ih => exact congrArg (t :: ·) ih
  exact hpresent v.args

theorem command?_effective (v : ArgVector) : v.effective.command? = v.command? := by
  obtain ⟨slots⟩ := v
  cases slots with
  | nil => rfl
  | cons slot rest => cases slot <;> rfl

end ArgVector

namespace Plan

/-- The plan with nothing but effective slots. -/
def effective : Plan → Plan
  | simple v => simple v.effective
  | pipeline left right => pipeline left.effective right.effective
  | redirect v target mode => redirect v.effective target mode

theorem command?_effective (p : Plan) : p.effective.leading.command? = p.leading.command? := by
  cases p <;> exact ArgVector.command?_effective _

/-- Nothing but the effective slots is run. -/
theorem runPlan_effective (p : Plan) : Shell.runPlan p.effective = Shell.runPlan p := by
  have hargv : ∀ v : ArgVector, Execution.argv v.effective = Execution.argv v := by
    intro v
    unfold Execution.argv
    rw [ArgVector.args_effective]
  cases p with
  | simple v =>
    show Execution.runSimple v.effective = Execution.runSimple v
    unfold Execution.runSimple
    rw [hargv]
  | pipeline left right =>
    show Execution.runPipeline left.effective right.effective = Execution.runPipeline left right
    unfold Execution.runPipeline
    rw [hargv, hargv]
  | redirect v target mode =>
    show Execution.runRedirect v.effective target mode = Execution.runRedirect v target mode
    unfold Execution.runRedirect
    rw [hargv]

end Plan

/-! ### Plans of other commands -/

namespace Shell

variable {p : Plan} {command : Text}

/-- Two plans with the same effective slots run alike. -/
theorem run_of_effective {q : Plan} (hcommand : p.leading.command? = some command)
    (hname : ¬Builtin.IsName command) (h : q.effective = p.effective) (shell : Shell) (w : World) :
    ((run q).start shell).run w = ((run p).start shell).run w := by
  have hcommand' : q.leading.command? = some command := by
    rw [← q.command?_effective, h, p.command?_effective, hcommand]
  have hplan : runPlan q = runPlan p := by
    rw [← q.runPlan_effective, h, p.runPlan_effective]
  rw [start_run_other hcommand hname, start_run_other hcommand' hname, hplan]

/-- **What a command that is no built-in answers is decided by its plan, the pipe and the forks**,
whatever its children do. A text with a NUL character is found before anything is asked of the
machine. A child that gets as far as starting a program passes on the effective arguments of its
stage, and the child of a stage without any reports that there is no such command; the slots behind
the first absent one have no part in all this. -/
theorem run_answers (hcommand : p.leading.command? = some command)
    (hname : ¬Builtin.IsName command) (shell : Shell) (w : World) :
    let noted := w.noting [dispatchRecord command .notBuiltin]
    let r := ((run p).start shell).run w
    r.1 = ((p.answer noted).map fun _ => .proceed, shell) ∧
    (∀ t, Text.firstNul? p.texts = some t → r.2 = noted) ∧
    World.Passes w.nextPid p.stages w r.2 ∧
    (∀ left right, p = .pipeline left right → right.args = [] → p.answer noted = .ok () →
      ∃ v, Execution.SaysBlank left noted v ∧
        r.2 = ((Execution.waits [w.nextPid, w.nextPid + 1]).run v).2) ∧
    ∀ q : Plan, q.effective = p.effective → ((run q).start shell).run w = r := by
  dsimp only
  obtain ⟨hanswer, hpasses⟩ :=
    Execution.launch_answer p (w.noting [dispatchRecord command .notBuiltin])
  have hrun := start_run_other hcommand hname shell w
  rw [Execution.run_runPlan] at hrun
  dsimp only at hrun
  -- What is decided is the answer of the launch; the waits behind it change none of this.
  refine ⟨?_, fun t ht => ?_, ?_, ?_, fun q h => run_of_effective hcommand hname h shell w⟩
  · rw [hrun, hanswer]
  · rw [hrun, Execution.launch_of_nul ht]
    rfl
  · rw [hrun]
    exact World.Passes.trans hpasses (Execution.passes_waits _ _ _ _)
  · rintro left right rfl hright hok
    obtain ⟨hlaunched, hblank⟩ := Execution.saysBlank_launch hright hok
    have hnext : (w.noting [dispatchRecord command .notBuiltin]).nextPid = w.nextPid := rfl
    refine ⟨_, hblank, ?_⟩
    rw [hrun, hlaunched, hnext]

/-- A NUL character behind an absent slot, and a second stage that has nothing but one: two children
are made all the same. -/
theorem run_answers_bare :
    let left : ArgVector := ⟨[some ['a'], none, some ['\x00']]⟩
    let r := ((run (.pipeline left ⟨[none]⟩)).start ⟨[Path.slash], 3⟩).run World.bare
    r.1.1 = .ok .proceed ∧ r.2.nextPid = World.bare.nextPid + 2 ∧
      World.Passes World.bare.nextPid [left, ⟨[none]⟩] World.bare r.2 := by
  let left : ArgVector := ⟨[some ['a'], none, some ['\x00']]⟩
  have hcommand : (Plan.pipeline left ⟨[none]⟩).leading.command? = some ['a'] := rfl
  obtain ⟨hanswer, -, hpasses, -⟩ :=
    run_answers hcommand (by decide) ⟨[Path.slash], 3⟩ World.bare
  exact ⟨congrArg Prod.fst hanswer, rfl, hpasses⟩

end Shell

end LineShell
