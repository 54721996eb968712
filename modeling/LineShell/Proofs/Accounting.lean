import LineShell.Proofs.Calls
import LineShell.Proofs.Lines
/-!
# Processes and descriptors after a line

However a line ends in the shell, every child that it made has been waited for, and the open numbers
of the shell are those from before.

`World.Spawned` is the state between the forks and the waits: the children of some stages are there.
Waiting for them settles the account (`World.Spawned.settled`), and every way of running a plan is a
series of forks with such waits behind it (`Shell.settled_runPlan`). The headline is
`Shell.exec_settles`.
-/

namespace LineShell

/-! ### The account of a line -/

/-- The argument vectors of a plan, in the order in which their children are made. -/
def Plan.stages : Plan → List ArgVector
  | .simple args => [args]
  | .pipeline left right => [left, right]
  | .redirect args _ _ => [args]

namespace Event

/-- A wait has just these numbers open, and a new pipe has none of them for its ends. -/
def KeepsOpen (t : DescriptorTable) : Event → Prop
  | .waited _ caller _ _ => caller.descriptors = t
  | .piped (.ok (readEnd, writeEnd)) => t.FreeFor readEnd writeEnd
  | _ => True

/-- A program that starts in one of the children numbered from `first` on is that of its stage. -/
def RunsStage (first : Nat) (stages : List ArgVector) : Event → Prop
  | .started words caller _ =>
    ∀ i, caller.pid = first + i → ∃ v, stages[i]? = some v ∧ Execution.argv v = .ok words
  | _ => True

variable {pid first : Nat} {args : List Text} {stages : List ArgVector} {e : Event}

theorem OfChild.keepsOpen (h : e.OfChild pid args) (t : DescriptorTable) : e.KeepsOpen t := by
  cases e <;> trivial

theorem RunsStage.append (h : e.RunsStage first stages) (more : List ArgVector) :
    e.RunsStage first (stages ++ more) := by
  cases e with
  | started words caller result =>
    intro i hi
    obtain ⟨v, hv, hargs⟩ := h i hi
    have hlt : i < stages.length := (List.getElem?_eq_some_iff.1 hv).1
    exact ⟨v, by rw [List.getElem?_append_left hlt, hv], hargs⟩
  | forked | waited | polled | opened | piped => trivial

/-- The child behind the last stage runs that stage. -/
theorem OfChild.runsStage (h : e.OfChild (first + stages.length) args) {v : ArgVector}
    (hargs : Execution.argv v = .ok args) : e.RunsStage first (stages ++ [v]) := by
  cases e with
  | started words caller result =>
    obtain ⟨⟨rfl, hpid⟩, -⟩ := h
    intro i hi
    have hlast : i = stages.length := by omega
    subst hlast
    exact ⟨v, by simp, hargs⟩
  | forked | waited | polled | opened | piped => trivial

end Event

namespace World

/-- The numbers of processes that are still to come are not in use. -/
structure PidsFresh (w : World) : Prop where
  self : w.self.pid < w.nextPid
  children : ∀ c ∈ w.children, c.process.pid < w.nextPid

/-- Children of some stages have been made, and none has been waited for. -/
structure Spawned (stages : List ArgVector) (w v : World) : Prop where
  pid : v.self.pid = w.self.pid
  nextPid : v.nextPid = w.nextPid + stages.length
  children : ∃ new : List Child, v.children = w.children ++ new ∧
    new.map (fun c => c.process.pid) = List.range' w.nextPid stages.length
  trace : ∃ made, v.trace = made ++ w.trace ∧
    made.filterMap Event.forked? = (List.range' w.nextPid stages.length).reverse ∧
    made.filterMap Event.waited? = [] ∧
    ∀ e ∈ made, e.KeepsOpen w.self.descriptors ∧ e.RunsStage w.nextPid stages

/-- **The account of a line is settled**: no child is left of those that it made, and each of them
has been waited for once, in the order in which they were made, so that the first stage comes before
the second. The open numbers are those from before; so they were at each wait, and no end of a pipe
made meanwhile is one of them. -/
structure Settled (stages : List ArgVector) (w v : World) : Prop where
  pid : v.self.pid = w.self.pid
  children : v.children = w.children
  descriptors : v.self.descriptors = w.self.descriptors
  trace : ∃ n made, v.nextPid = w.nextPid + n ∧ v.trace = made ++ w.trace ∧
    made.filterMap Event.forked? = (List.range' w.nextPid n).reverse ∧
    made.filterMap Event.waited? = (List.range' w.nextPid n).reverse ∧
    ∀ e ∈ made, e.KeepsOpen w.self.descriptors ∧ e.RunsStage w.nextPid stages

theorem pidsFresh_start (t : FileTree) (directory : Inode) (env : Environment)
    (directories : Directories) (userland : Userland) (input : Input) :
    PidsFresh (start t directory env directories userland input) :=
  ⟨by show 4000 < 4001; omega, fun _ h => absurd h List.not_mem_nil⟩

variable {stages : List ArgVector} {u v w : World}

theorem PidsFresh.noting (h : w.PidsFresh) (records : List Log.Record) :
    (w.noting records).PidsFresh := ⟨h.self, h.children⟩

/-- A settled account leaves fresh numbers for the next line. -/
theorem Settled.pidsFresh (h : Settled stages w v) (hfresh : w.PidsFresh) : v.PidsFresh := by
  obtain ⟨n, made, hnext, _⟩ := h.trace
  refine ⟨?_, fun c hc => ?_⟩
  · have := hfresh.self
    rw [h.pid, hnext]
    omega
  · rw [h.children] at hc
    have := hfresh.children c hc
    omega

theorem Settled.append (h : Settled stages w v) (more : List ArgVector) :
    Settled (stages ++ more) w v := by
  obtain ⟨n, made, hnext, htrace, hforked, hwaited, hmade⟩ := h.trace
  exact ⟨h.pid, h.children, h.descriptors, n, made, hnext, htrace, hforked, hwaited,
    fun e he => ⟨(hmade e he).1, (hmade e he).2.append more⟩⟩

/-- An account without children, in which nothing but such events has happened. -/
theorem Settled.of_events (made : List Event) (hpid : v.self.pid = w.self.pid)
    (hnext : v.nextPid = w.nextPid)
    (hchildren : v.children = w.children) (hdescriptors : v.self.descriptors = w.self.descriptors)
    (htrace : v.trace = made ++ w.trace)
    (hmade : ∀ e ∈ made, e.forked? = none ∧ e.waited? = none ∧ e.KeepsOpen w.self.descriptors ∧
      e.RunsStage w.nextPid stages) : Settled stages w v := by
  refine ⟨hpid, hchildren, hdescriptors, 0, made, hnext, htrace, ?_, ?_, fun e he =>
    (hmade e he).2.2⟩
  · exact List.filterMap_eq_nil_iff.2 fun e he => (hmade e he).1
  · exact List.filterMap_eq_nil_iff.2 fun e he => (hmade e he).2.1

theorem Settled.of_eq (hpid : v.self.pid = w.self.pid) (hnext : v.nextPid = w.nextPid)
    (hchildren : v.children = w.children) (hdescriptors : v.self.descriptors = w.self.descriptors)
    (htrace : v.trace = w.trace) : Settled stages w v :=
  .of_events [] hpid hnext hchildren hdescriptors htrace
    fun _ he => absurd he List.not_mem_nil

/-! ### Forks with waits behind them -/

theorem Spawned.refl (w : World) : Spawned [] w w :=
  ⟨rfl, rfl, ⟨[], (List.append_nil _).symm, rfl⟩, [], rfl, rfl, rfl,
    fun _ he => absurd he List.not_mem_nil⟩

/-- A fork adds the child of one stage more. -/
theorem Spawned.fork (h : Spawned stages w v) {args : List Text} {x : ArgVector}
    (hargs : Execution.argv x = .ok args) (hfork : Forked args v u) :
    Spawned (stages ++ [x]) w u := by
  obtain ⟨new, hchildren, hpids⟩ := h.children
  obtain ⟨child, hchild, hmore⟩ := hfork.children
  obtain ⟨made, htrace, hforked, hwaited, hmade⟩ := h.trace
  obtain ⟨made', htrace', hmade'⟩ := hfork.trace
  -- The new child has the number behind those of the stages so far.
  have hrange : List.range' w.nextPid (stages ++ [x]).length =
      List.range' w.nextPid stages.length ++ [v.nextPid] := by
    rw [List.length_append, List.length_singleton, List.range'_concat, h.nextPid, Nat.one_mul]
  -- What the child does before its program shows neither a fork nor a wait of the shell.
  have hnone : made'.filterMap Event.forked? = [] ∧ made'.filterMap Event.waited? = [] :=
    ⟨List.filterMap_eq_nil_iff.2 fun e he => (hmade' e he).1.forked?_eq_none,
      List.filterMap_eq_nil_iff.2 fun e he => (hmade' e he).1.waited?_eq_none⟩
  refine ⟨by rw [hfork.self, h.pid], ?_, ⟨new ++ [child], ?_, ?_⟩,
    made' ++ .forked v.nextPid :: made, ?_, ?_, ?_, ?_⟩
  · rw [hfork.nextPid, h.nextPid, List.length_append, List.length_singleton, Nat.add_assoc]
  · rw [hmore, hchildren, List.append_assoc]
  · rw [List.map_append, hpids, hrange, List.map_singleton, hchild]
  · rw [htrace', htrace, List.append_assoc, List.cons_append]
  · rw [List.filterMap_append, hnone.1, hrange, List.reverse_append, ← hforked]
    rfl
  · rw [List.filterMap_append, hnone.2]
    exact hwaited
  · intro e he
    rcases List.mem_append.1 he with he | he
    · have hof := (hmade' e he).1
      rw [h.nextPid] at hof
      exact ⟨hof.keepsOpen _, hof.runsStage hargs⟩
    · rcases List.mem_cons.1 he with rfl | he
      · exact ⟨trivial, trivial⟩
      · exact ⟨(hmade e he).1, (hmade e he).2.append [x]⟩

/-- **Waiting for all children that were made settles the account.** -/
theorem Spawned.settled (h : Spawned stages w v) (hfresh : w.PidsFresh)
    (hopen : v.self.descriptors = w.self.descriptors)
    (hwait : Waited (List.range' w.nextPid stages.length) v u) : Settled stages w u := by
  obtain ⟨new, hchildren, hpids⟩ := h.children
  obtain ⟨made, htrace, hforked, hwaited, hmade⟩ := h.trace
  obtain ⟨made', htrace', hwaited', hmade'⟩ := hwait.trace
  refine ⟨by rw [hwait.self, h.pid], ?_, by rw [hwait.self, hopen], stages.length, made' ++ made,
    by rw [hwait.nextPid, h.nextPid], ?_, ?_, ?_, ?_⟩
  · rw [hwait.children, hchildren, List.filter_append]
    -- A child from before the line has a number below those that are waited for.
    have hold : w.children.filter (fun c => c.process.pid ∉ List.range' w.nextPid stages.length) =
        w.children := by
      refine List.filter_eq_self.2 fun c hc => ?_
      have := hfresh.children c hc
      simp only [decide_not, List.mem_range'_1, Bool.not_eq_true', decide_eq_false_iff_not]
      omega
    have hnew : new.filter (fun c => c.process.pid ∉ List.range' w.nextPid stages.length) = [] := by
      refine List.filter_eq_nil_iff.2 fun c hc => ?_
      have hmem : c.process.pid ∈ new.map (fun c => c.process.pid) :=
        List.mem_map_of_mem hc
      rw [hpids] at hmem
      simpa using hmem
    rw [hold, hnew, List.append_nil]
  · rw [htrace', htrace, List.append_assoc]
  -- Waiting forks nothing, so that all forks are those of the launch.
  · have hnone : made'.filterMap Event.forked? = [] := by
      refine List.filterMap_eq_nil_iff.2 fun e he => ?_
      obtain ⟨pid, children, machine, rfl⟩ := hmade' e he
      rfl
    rw [List.filterMap_append, hnone, hforked, List.nil_append]
  · rw [List.filterMap_append, hwaited', hwaited, List.append_nil]
  · intro e he
    rcases List.mem_append.1 he with he | he
    · obtain ⟨pid, children, machine, rfl⟩ := hmade' e he
      exact ⟨hopen, trivial⟩
    · exact hmade e he

/-- The waits may stand in a guard. -/
theorem Spawned.settled_guarded {act : Proc Unit} (h : Spawned stages w v) (hfresh : w.PidsFresh)
    (hopen : v.self.descriptors = w.self.descriptors)
    (hwait : ∀ x, Waited (List.range' w.nextPid stages.length) x (act.run x).2) :
    Settled stages w ((Signals.guarded act).run v).2 := by
  obtain ⟨before, after, hrun⟩ := Signals.run_guarded act v
  have hinside : Spawned stages w
      (v.altered (v.installed .ignoring) before (.signalAction :: v.calls)) :=
    ⟨h.pid, h.nextPid, h.children, h.trace⟩
  have hsettled := hinside.settled hfresh hopen (hwait _)
  rw [hrun]
  exact ⟨hsettled.pid, hsettled.children, hsettled.descriptors, hsettled.trace⟩

end World

/-! ### The ways of running a plan -/

namespace Execution

open World

variable {w : World}

/-- The one child that was made is waited for. -/
theorem settled_guardedWait {v : ArgVector} {u : World} (h : Spawned [v] w u) (hfresh : w.PidsFresh)
    (hopen : u.self.descriptors = w.self.descriptors) :
    Settled [v] w ((Signals.guarded (waitFor w.nextPid)).run u).2 := by
  have hpids : List.range' w.nextPid [v].length = [w.nextPid] := rfl
  refine h.settled_guarded hfresh hopen fun x => ?_
  rw [hpids]
  exact waited_waitFor w.nextPid x

/-- A child that is forked, logged and waited for. -/
theorem settled_forkOne {v : ArgVector} {args : List Text} {body : Proc Fate}
    (hfresh : w.PidsFresh) (hargs : argv v = .ok args) (hbody : IsChild args body)
    (record : Nat → Log.Record) :
    Settled [v] w ((do
      match ← Proc.fork body with
      | .error e => return .error (.fork e)
      | .ok pid =>
        Proc.log (record pid)
        Signals.guarded (waitFor pid)
        return .ok () : Proc (Except ShellError Unit)).run w).2 := by
  rw [run_bind]
  cases hrefusal : w.refusal .fork with
  | some e =>
    rw [Proc.run_fork_refused hrefusal]
    -- Nothing was made, and nothing is waited for.
    exact .of_eq rfl rfl rfl rfl rfl
  | none =>
    obtain ⟨u, hrun, hfork⟩ := Proc.forked_of_isChild hrefusal hbody
    have hspawned : Spawned [v] w u := (Spawned.refl w).fork hargs hfork
    -- The record of the new child comes between the fork and the wait.
    have hnoted : Spawned [v] w (u.noting [record w.nextPid]) :=
      ⟨hspawned.pid, hspawned.nextPid, hspawned.children, hspawned.trace⟩
    rw [hrun]
    dsimp only
    rw [run_bind, Proc.run_log, run_bind, run_pure]
    exact settled_guardedWait hnoted hfresh (congrArg Process.descriptors hfork.self)

theorem settled_runSimple (v : ArgVector) (hfresh : w.PidsFresh) :
    Settled [v] w ((runSimple v).run w).2 := by
  unfold runSimple
  cases hargs : argv v with
  | error e => exact .of_eq rfl rfl rfl rfl rfl
  | ok args => exact settled_forkOne hfresh hargs (isChild_simpleChild args) _

theorem settled_runRedirect (v : ArgVector) (target : Text) (mode : RedirectMode)
    (hfresh : w.PidsFresh) : Settled [v] w ((runRedirect v target mode).run w).2 := by
  unfold runRedirect
  cases hargs : argv v with
  | error e => exact .of_eq rfl rfl rfl rfl rfl
  | ok args =>
    dsimp only
    cases withoutNul target with
    | error e => exact .of_eq rfl rfl rfl rfl rfl
    | ok target => exact settled_forkOne hfresh hargs (isChild_redirectChild args target mode) _

/-- With a pipe made, and none of its ends open before: both ends are closed before any wait. -/
theorem settled_runStages {left right : ArgVector} {writer reader : List Text}
    {readEnd writeEnd : Nat} (hfresh : w.PidsFresh) (hleft : argv left = .ok writer)
    (hright : argv right = .ok reader)
    (hfree : w.self.descriptors.FreeFor readEnd writeEnd) :
    Settled [left, right] w
      ((runStages writer reader readEnd writeEnd).run (w.withPipe readEnd writeEnd)).2 := by
  have hpiped : Spawned [] w (w.withPipe readEnd writeEnd) := by
    refine ⟨rfl, rfl, ⟨[], (List.append_nil _).symm, rfl⟩, [.piped (.ok (readEnd, writeEnd))], rfl,
      rfl, rfl, fun e he => ?_⟩
    rw [List.mem_singleton.1 he]
    exact ⟨hfree, trivial⟩
  have hpid : (w.withPipe readEnd writeEnd).nextPid = w.nextPid := rfl
  have hclosed : ∀ u : World, u.self = (w.withPipe readEnd writeEnd).self →
      (u.closing readEnd writeEnd).self.descriptors = w.self.descriptors :=
    fun u hself => congrArg Process.descriptors (self_closing hfree hself)
  generalize w.withPipe readEnd writeEnd = v at hpiped hpid hclosed ⊢
  have hcases := staging_runStages writer reader readEnd writeEnd v
  generalize (runStages writer reader readEnd writeEnd).run v = r at hcases ⊢
  cases hcases with
  | unforked h =>
    have hspawned : Spawned [] w ((v.counting .fork).closing readEnd writeEnd) :=
      ⟨hpiped.pid, hpiped.nextPid, hpiped.children, hpiped.trace⟩
    exact (hspawned.settled hfresh (hclosed _ rfl) (Waited.refl _)).append [left, right]
  | @half e u hrun hfork h =>
    -- The writer is waited for with both ends closed, though nobody will read what it writes.
    have hforked : Spawned [left] w u := hpiped.fork hleft hfork
    have hspawned : Spawned [left] w ((u.counting .fork).closing readEnd writeEnd) :=
      ⟨hforked.pid, hforked.nextPid, hforked.children, hforked.trace⟩
    dsimp only
    rw [hpid]
    exact (settled_guardedWait hspawned hfresh (hclosed _ hfork.self)).append [right]
  | @whole u x hfork hfork' records =>
    have hforked : Spawned [left] w u := hpiped.fork hleft hfork
    have hforked' : Spawned [left, right] w x := hforked.fork hright hfork'
    have hspawned : Spawned [left, right] w ((x.closing readEnd writeEnd).noting records) :=
      ⟨hforked'.pid, hforked'.nextPid, hforked'.children, hforked'.trace⟩
    have hpids : List.range' w.nextPid [left, right].length = [w.nextPid] ++ [u.nextPid] := by
      rw [hforked.nextPid]
      rfl
    dsimp only
    rw [hpid]
    refine hspawned.settled_guarded hfresh (hclosed _ (hfork'.self.trans hfork.self)) fun y => ?_
    rw [run_bind, hpids]
    exact (waited_waitFor _ y).trans (waited_waitFor _ _)

theorem settled_runPipeline (left right : ArgVector) (hfresh : w.PidsFresh) :
    Settled [left, right] w ((runPipeline left right).run w).2 := by
  unfold runPipeline
  cases hleft : argv left with
  | error e => exact .of_eq rfl rfl rfl rfl rfl
  | ok writer =>
    dsimp only
    cases hright : argv right with
    | error e => exact .of_eq rfl rfl rfl rfl rfl
    | ok reader =>
      dsimp only
      rw [run_bind]
      rcases Proc.pipe_cases w with ⟨e, hpipe⟩ | ⟨readEnd, writeEnd, hfree, hpipe⟩
      · rw [hpipe]
        refine .of_events [.piped (.error e)] rfl rfl rfl rfl rfl fun event hevent => ?_
        rw [List.mem_singleton.1 hevent]
        exact ⟨rfl, rfl, trivial, trivial⟩
      · rw [hpipe]
        exact settled_runStages hfresh hleft hright hfree

/-- A program that does not start in the place of the shell leaves nothing to account for. -/
theorem settled_replaceImage {v : ArgVector} {e : ShellError} {w' : World} (hfresh : w.PidsFresh)
    (stages : List ArgVector) (h : (replaceImage v).run w = (.error e, w')) :
    Settled stages w w' := by
  have hcases := replacement_replaceImage v w
  rw [h] at hcases
  cases hcases with
  | unfit hargs => exact .of_eq rfl rfl rfl rfl rfl
  | failed hargs e hmade records calls hu =>
    subst hu
    refine .of_events _ rfl rfl rfl rfl rfl fun event hevent => ?_
    obtain ⟨words, rfl⟩ := hmade event hevent
    refine ⟨rfl, rfl, trivial, fun i hi => ?_⟩
    have := hfresh.self
    simp only at hi
    omega

end Execution

namespace Shell

open World

/-- The argument vectors of the stages of a line. -/
def stages (shell : Shell) (w : World) (line : Text) : List ArgVector :=
  match (planned shell w line).outcome with
  | .ok (some p) => p.stages
  | _ => []

theorem settled_runPlan (p : Plan) {w : World} (hfresh : w.PidsFresh) :
    Settled p.stages w ((runPlan p).run w).2 := by
  cases p with
  | simple args => exact Execution.settled_runSimple args hfresh
  | pipeline left right => exact Execution.settled_runPipeline left right hfresh
  | redirect args target mode => exact Execution.settled_runRedirect args target mode hfresh

theorem settled_course {line : Text} {shell : Shell} {w : World}
    {r : (Except ShellError Flow × Shell) × World} (hfresh : w.PidsFresh)
    (hreturns : Returns r.1.1) (hcourse : Course shell w line r) :
    Settled (stages shell w line) w r.2 := by
  cases hcourse with
  -- Only a plan that is run makes children; each other course leaves the children as they were.
  | refused hplan records => exact .of_eq rfl rfl rfl rfl rfl
  | settled flow hflow records => exact .of_eq rfl rfl rfl rfl rfl
  | moved operand records after hcd hafter =>
    cases Builtin.move_of_cd hcd <;> exact .of_eq rfl rfl rfl rfl rfl
  | helped records after =>
    rw [Proc.run_write]
    exact .of_eq rfl rfl rfl rfl rfl
  | @became v records r w' h =>
    cases r with
    | ok image => exact absurd rfl (hreturns image)
    -- The program was not started, and the shell goes on with the children that it had.
    | error e =>
      have hsettled : Settled (stages shell w line) (w.noting records) w' :=
        Execution.settled_replaceImage (hfresh.noting records) _ h
      exact ⟨hsettled.pid, hsettled.children, hsettled.descriptors, hsettled.trace⟩
  | @ran p hp records r w' h =>
    have hsettled : Settled p.stages (w.noting records) ((runPlan p).run (w.noting records)).2 :=
      settled_runPlan p (hfresh.noting records)
    rw [h] at hsettled
    have hstages : stages shell w line = p.stages := by
      unfold stages
      rw [hp]
    rw [hstages]
    exact ⟨hsettled.pid, hsettled.children, hsettled.descriptors, hsettled.trace⟩

/-- **However a line ends in the shell, its account is settled**: whichever calls are refused, all
its children have been waited for, each once and in the order of the stages, no end of a pipe was
open at a wait, and the open numbers of the shell are those from before. The numbers of processes
that are still to come are fresh as before, so that the same holds of the next line. -/
theorem exec_settles (line : Text) (shell : Shell) {w : World} (hfresh : w.PidsFresh)
    (hreturns : Returns (((exec line).start shell).run w).1.1) :
    Settled (stages shell w line) w (((exec line).start shell).run w).2 ∧
      (((exec line).start shell).run w).2.PidsFresh := by
  have hsettled := settled_course hfresh hreturns (course_exec line shell w)
  exact ⟨hsettled, hsettled.pidsFresh hfresh⟩

/-- The second fork is refused, and the only child has been waited for. -/
theorem exec_settles_crowded :
    let line := Text.lit "a | b"
    let r := ((exec line).start ⟨[Path.slash], 2⟩).run crowded
    r.1.1 = .error (.fork .tryAgain) ∧ r.2.nextPid = crowded.nextPid + 1 ∧
      Settled (stages ⟨[Path.slash], 2⟩ crowded line) crowded r.2 := by
  have hbare : bare.PidsFresh := pidsFresh_start _ _ _ _ _ _
  have hfresh : crowded.PidsFresh := ⟨hbare.self, hbare.children⟩
  have hfails : (((exec (Text.lit "a | b")).start ⟨[Path.slash], 2⟩).run crowded).1.1 =
      .error (.fork .tryAgain) := rfl
  have hsettles := exec_settles (Text.lit "a | b") ⟨[Path.slash], 2⟩ hfresh
    (by rw [hfails]; exact returns_error _)
  exact ⟨hfails, rfl, hsettles.1⟩

end Shell

end LineShell
