import LineShell.Proofs.Descriptors
import LineShell.Proofs.Topology
import LineShell.Proofs.Writes
/-!
# Reports of programs that do not start

When the first program of a line does not start, its child says so where the shell writes, and
nowhere else: the pipe stays empty, and the target is as opening it has left it. `Plan.Reported`
describes the machine afterwards, log records of the shell aside (`World.Logs`), and the headline is
`Shell.exec_reports`.

The child has given its output away by then, and has to take it back. It may have had no number to
keep it at; but then it has not come so far, for the pipe or the target takes a number too
(`Execution.Standing`).
-/

namespace LineShell

namespace World

variable {u v w : World} {m : Machine}

/-! ### Log records -/

/-- The machine after records have gone to the log of the shell. -/
def logged (w : World) (records : List Log.Record) (m : Machine) : Machine :=
  records.foldl (Machine.noted w.log w.self.descriptors) m

/-- The machine after a report has gone to the output of the shell. -/
def reported (w : World) (diagnostic : Text) (m : Machine) : Machine :=
  m.written w.self.descriptors Execution.stdout diagnostic.bytes

/-- The shell has the same numbers, and from a machine on it has written log records and no more. -/
structure Logs (m : Machine) (w v : World) : Prop where
  descriptors : v.self.descriptors = w.self.descriptors
  log : v.log = w.log
  userland : v.userland = w.userland
  machine : ∃ records, v.machine = w.logged records m

theorem Logs.logged_eq (h : Logs m w v) : v.logged = w.logged := by
  unfold logged
  rw [h.log, h.descriptors]

theorem Logs.trans (h : Logs m u v) (h' : Logs v.machine v w) : Logs m u w := by
  obtain ⟨records, hrecords⟩ := h.machine
  obtain ⟨more, hmore⟩ := h'.machine
  refine ⟨h'.descriptors.trans h.descriptors, h'.log.trans h.log, h'.userland.trans h.userland,
    records ++ more, ?_⟩
  rw [hmore, h.logged_eq, hrecords]
  exact List.foldl_append.symm

/-- Steps that reach a world with the machine as it is. -/
theorem Logs.of_eq (hdescriptors : v.self.descriptors = w.self.descriptors) (hlog : v.log = w.log)
    (huserland : v.userland = w.userland) : Logs v.machine w v :=
  ⟨hdescriptors, hlog, huserland, [], rfl⟩

theorem Alters.logs (h : Alters w v) : Logs w.machine w v := by
  obtain ⟨i, records, calls, rfl⟩ := h
  exact ⟨rfl, rfl, rfl, records, rfl⟩

theorem logs_noting (w : World) (records : List Log.Record) : Logs w.machine w (w.noting records) :=
  ⟨rfl, rfl, rfl, records, rfl⟩

/-! ### Waits for known children -/

theorem finish_ended {c : Child} (h : isRunning c = false) (w : World) : w.finish c = (w, c) := by
  unfold finish
  unfold isRunning at h
  cases hfate : c.fate with
  | running image =>
    rw [hfate] at h
    cases h
  | ended status => rfl

theorem finish_running {c : Child} {image : Image} (h : c.fate = .running image) (w : World) :
    (w.finish c).1.machine =
      ((w.userland image).run ⟨c.process, w.withReaders⟩).2.machine := by
  unfold finish
  rw [h]
  rfl

/-- Numbers that were fresh belong to new children. -/
theorem child?_of_children {new : List Child} (hfresh : w.PidsFresh)
    (h : v.children = w.children ++ new) {pid : Nat} (hpid : w.nextPid ≤ pid) :
    v.child? pid = new.find? fun c => c.process.pid == pid := by
  have hold : w.children.find? (fun c => c.process.pid == pid) = none := by
    refine List.find?_eq_none.2 fun c hc heq => ?_
    have hlt := hfresh.children c hc
    have hpid' := beq_iff_eq.1 heq
    omega
  unfold child?
  rw [h, List.find?_append, hold, Option.none_or]

end World

namespace Execution

open World

variable {w : World} {pid pid' : Nat} {c c' : Child}

/-- A wait lets its child run to the end, and logs that. -/
theorem logs_waitFor (h : w.child? pid = some c) :
    Logs (w.finish c).1.machine w ((waitFor pid).run w).2 := by
  obtain ⟨m, children, hfinish, -⟩ := finishPid_eq (w.awaiting pid) pid
  -- Counting the wait changes nothing that the child could see.
  have hm : m = (w.finish c).1.machine := by
    have hmachine : ((w.awaiting pid).finishPid pid).machine = (w.finish c).1.machine := by
      unfold finishPid
      rw [show (w.awaiting pid).child? pid = some c from h]
      show ((w.awaiting pid).finish c).1.machine = _
      unfold finish
      cases c.fate <;> rfl
    rw [hfinish] at hmachine
    exact hmachine
  have hproc : Logs (w.finish c).1.machine w ((Proc.waitFor pid).run w).2 := by
    rw [Proc.run_waitFor, hfinish, hm]
    exact ⟨rfl, rfl, rfl, [], rfl⟩
  unfold waitFor
  rw [run_bind]
  -- The record says how the wait went, and it is one record either way.
  cases ((Proc.waitFor pid).run w).1 with
  | ok status =>
    dsimp only
    rw [Proc.run_log]
    exact hproc.trans (logs_noting _ _)
  | error e =>
    dsimp only
    rw [Proc.run_log]
    exact hproc.trans (logs_noting _ _)

/-- A guarded wait for one child. -/
theorem logs_waits_one (h : w.child? pid = some c) :
    ∃ y, Logs w.machine w y ∧ Logs (y.finish c).1.machine y ((waits [pid]).run w).2 := by
  obtain ⟨before, after, hrun⟩ := Signals.run_guarded (waitFor pid) w
  rw [waits_one, hrun]
  let y := w.altered (w.installed .ignoring) before (.signalAction :: w.calls)
  exact ⟨y, Alters.logs ⟨_, _, _, rfl⟩,
    (logs_waitFor (w := y) h).trans (Alters.logs ⟨_, _, _, rfl⟩)⟩

/-- A guarded wait for two children, when the first one has ended before. -/
theorem logs_waits_two (h : w.child? pid = some c) (h' : w.child? pid' = some c') (hne : pid ≠ pid')
    (hended : isRunning c = false) :
    ∃ y, Logs w.machine w y ∧
      Logs (y.finish c').1.machine y ((waits [pid, pid']).run w).2 := by
  obtain ⟨before, after, hrun⟩ := Signals.run_guarded (do waitFor pid; waitFor pid') w
  rw [waits_two, hrun]
  let x := w.altered (w.installed .ignoring) before (.signalAction :: w.calls)
  let y := ((waitFor pid).run x).2
  have hx : Logs w.machine w x := Alters.logs ⟨_, _, _, rfl⟩
  have hy : Logs x.machine x y := by
    have hlogs : Logs (x.finish c).1.machine x y := logs_waitFor h
    rwa [finish_ended hended] at hlogs
  have hchild : y.child? pid' = some c' := by
    unfold child?
    rw [(waited_waitFor pid x).children, List.find?_filter, ← h']
    unfold child?
    refine congrArg (fun p => w.children.find? p) (funext fun d => ?_)
    by_cases hd : d.process.pid = pid'
    · simp [hd, Ne.symm hne]
    · simp [hd]
  exact ⟨y, hx.trans hy, (logs_waitFor hchild).trans (Alters.logs ⟨_, _, _, rfl⟩)⟩

end Execution

/-! ### Children that do not start -/

namespace World

variable {u v w : World} {child : Child} {entered : List (Nat × Image)}

/-- The first child that was made between two worlds has entered no program. -/
def FirstFails (w v : World) : Prop :=
  w.nextPid < v.nextPid ∧
    ∃ entered, w.Enters entered v ∧ ∀ image, (w.nextPid, image) ∉ entered

theorem Enters.unique {entered' : List (Nat × Image)} (h : Enters entered w v)
    (h' : Enters entered' w v) : entered = entered' := by
  obtain ⟨made, htrace, rfl⟩ := h
  obtain ⟨made', htrace', rfl⟩ := h'
  rw [List.append_cancel_right (htrace.symm.trans htrace')]

/-- It has ended then. -/
theorem FirstFails.ended (h : FirstFails w v) (hpid : child.process.pid = w.nextPid)
    (henters : w.Enters (child.entered?.toList ++ entered) v) : isRunning child = false := by
  obtain ⟨-, entered', henters', hnone⟩ := h
  obtain rfl := henters'.unique henters
  unfold isRunning
  cases hfate : child.fate with
  | ended status => rfl
  | running image =>
    refine absurd ?_ (hnone image)
    unfold Child.entered?
    rw [hfate, hpid]
    exact List.mem_cons_self

end World

namespace Execution

open World

variable {args : List Text} {diagnostic : Text} {t : DescriptorTable} {m : Machine} {child : Child}
  {u v w : World}

/-- What a fork leaves in any case. -/
theorem Forks.logs (h : Forks args diagnostic t m child w v) : Logs v.machine w v := by
  obtain ⟨fate, t', i, m', calls, made, -, -, rfl⟩ := h
  exact ⟨rfl, rfl, rfl, [], rfl⟩

theorem Forks.faults (h : Forks args diagnostic t m child w v) : v.faults = w.faults := by
  obtain ⟨fate, t', i, m', calls, made, -, -, rfl⟩ := h
  rfl

/-- **A child that has ended has reported on the output of the shell.** -/
theorem Forks.reported (h : Forks args diagnostic t m child w v) (hended : isRunning child = false)
    (hgrants : w.GrantsDuplicates) : v.machine = w.reported diagnostic m := by
  obtain ⟨fate, t', i, m', calls, made, hstanding, rfl, rfl⟩ := h
  cases hstanding with
  | running => cases hended
  | ended hout => exact Machine.written_of_sameOutput (hout hgrants) m _

/-- A child that runs has its numbers, and has changed nothing. -/
theorem Forks.running (h : Forks args diagnostic t m child w v) (hrunning : isRunning child = true) :
    v.machine = m ∧ child.process.descriptors = t ∧ ∃ image, child.fate = .running image := by
  obtain ⟨fate, t', i, m', calls, made, hstanding, rfl, rfl⟩ := h
  cases hstanding with
  | running => exact ⟨rfl, rfl, _, rfl⟩
  | ended => cases hrunning

end Execution

/-! ### Where the reports go -/

/-- How a pipeline goes on when its first stage has reported, from the machine that this leaves. -/
inductive Execution.Unfed (w : World) (right : ArgVector) (m : Machine) (final : World) : Prop
  /-- There is no second stage. -/
  | alone (records : List Log.Record) (hmachine : final.machine = w.logged records m)
  /-- The second stage reports too. -/
  | unread {reader : List Text} (hright : Execution.argv right = .ok reader)
      (records : List Log.Record)
      (hmachine : final.machine =
        w.logged records (w.reported (Execution.stageDiagnostic 2 reader) m))
  /-- The program of the second stage runs, and finds nothing in its input. -/
  | read (image : Image) (before after : List Log.Record) {c : Context} (pipes : List Pipe)
      (hfound : c.machine = { w.logged before m with pipes := pipes })
      (hpipes : pipes.map Pipe.content = (w.logged before m).pipes.map Pipe.content)
      (hinput : (Call.peek Execution.stdin).run c = (.ok (.finite []), c))
      (hmachine : final.machine = w.logged after ((w.userland image).run c).2.machine)

/-- What has become of a plan whose first child has entered no program: everything is as it was but
for what the line has opened, the report on the output of the shell, and log records. -/
inductive Plan.Reported (w : World) : Plan → World → Prop
  | simple {v : ArgVector} {args : List Text} {final : World} (hargs : Execution.argv v = .ok args)
      (records : List Log.Record)
      (hmachine : final.machine =
        w.logged records (w.reported (Execution.simpleDiagnostic args) w.machine)) :
      Reported w (.simple v) final
  /-- The pipe is empty when the first stage has reported. -/
  | pipeline {left right : ArgVector} {writer : List Text} {final : World}
      (hleft : Execution.argv left = .ok writer)
      (hempty : (w.reported (Execution.stageDiagnostic 1 writer) w.machine.withPipe).pipes[
        w.machine.pipes.length]? = some ⟨.finite [], true⟩)
      (hunfed : Execution.Unfed w right
        (w.reported (Execution.stageDiagnostic 1 writer) w.machine.withPipe) final) :
      Reported w (.pipeline left right) final
  /-- The target could not be opened. -/
  | unopened {v : ArgVector} {target : Text} {mode : RedirectMode} {final : World}
      (hopened : ∃ made e, final.trace = made ++ w.trace ∧ .opened target.bytes (.error e) ∈ made)
      (records : List Log.Record)
      (hmachine : final.machine =
        w.logged records (w.reported (Execution.openDiagnostic target) w.machine)) :
      Reported w (.redirect v target mode) final
  /-- The target was opened. If it is a file and not the output of the shell, it holds what opening it
  has left when the child has reported, and afterwards unless the log goes there. -/
  | opened {v : ArgVector} {args : List Text} {target : Text} {mode : RedirectMode} {final : World}
      (hargs : Execution.argv v = .ok args) {self : Process} {tree : FileTree} {channel : Channel}
      (hself : self.directory = w.self.directory)
      (hopen : Call.openPath ⟨self, w.machine⟩ target.bytes (Execution.openMode mode) =
        .ok (tree, channel))
      (records : List Log.Record)
      (hmachine : final.machine = w.logged records (w.reported (Execution.redirectDiagnostic args)
        (w.machine.opening tree ⟨channel, 0, (Execution.openMode mode).append, false, true⟩)))
      (hleaves : ∀ i, channel = .node i →
        ¬w.machine.LeadsTo w.self.descriptors Execution.stdout channel →
        ((w.reported (Execution.redirectDiagnostic args) (w.machine.opening tree
          ⟨channel, 0, (Execution.openMode mode).append, false, true⟩)).tree.node? i).map Node.kind =
            some (mode.leaves ((w.machine.tree.node? i).map Node.kind)))
      (hlogged : ∀ i, channel = .node i →
        (∀ sink ∈ w.log, ¬w.machine.LeadsTo w.self.descriptors sink.descriptor channel) →
        final.machine.tree.node? i = (w.reported (Execution.redirectDiagnostic args)
          (w.machine.opening tree
            ⟨channel, 0, (Execution.openMode mode).append, false, true⟩)).tree.node? i) :
      Reported w (.redirect v target mode) final

/-! ### The machine afterwards -/

namespace World

variable {w : World} {readEnd writeEnd : Nat}

/-- No number of the shell leads to a pipe that it is about to make. -/
theorem Sound.not_leadsTo (h : w.Sound) (fd : Nat) :
    ¬w.machine.withPipe.LeadsTo w.self.descriptors fd (.pipeWrite w.machine.pipes.length) := by
  intro hleads
  obtain ⟨handle, -, hchannel⟩ :=
    Machine.leadsTo_of_append (List.append_assoc _ _ _) h.self hleads
  exact Nat.lt_irrefl _ (h.pipes _ _ (.inr hchannel))

/-- The pipe is empty, whatever the shell writes. -/
theorem Sound.pipe_logged (h : w.Sound) (records : List Log.Record) (diagnostic : Text) :
    (w.logged records (w.reported diagnostic w.machine.withPipe)).pipes[w.machine.pipes.length]? =
      some ⟨.finite [], true⟩ := by
  have hkeeps : Machine.Keeps w.machine.withPipe (w.reported diagnostic w.machine.withPipe) :=
    Machine.keeps_written _ _ _ _
  have hreported := Machine.behind_written (h.not_leadsTo Execution.stdout) diagnostic.bytes
  have hsinks : ∀ sink ∈ w.log, ¬(w.reported diagnostic w.machine.withPipe).LeadsTo
      w.self.descriptors sink.descriptor (.pipeWrite w.machine.pipes.length) :=
    fun sink _ => mt hkeeps.leadsTo.1 (h.not_leadsTo sink.descriptor)
  have hlogged := Machine.behind_foldl_noted hsinks records
  exact (Machine.pipes_of_behind (hlogged.trans hreported)).trans List.getElem?_concat_length

theorem reported_withPipe (hfree : w.self.descriptors.FreeFor readEnd writeEnd) {output : Handle}
    (hout : Table.get? Execution.stdout w.self.descriptors = some output) :
    (w.withPipe readEnd writeEnd).reported = w.reported := by
  have hread := Table.ne_of_get? hout hfree.1
  have hwrite := Table.ne_of_get? hout hfree.2.1
  have hsame : w.self.descriptors.SameOutput (w.withPipe readEnd writeEnd).self.descriptors :=
    congrArg (Option.map Handle.description) (DescriptorTable.get?_withEnds hread hwrite _ _)
  exact funext fun diagnostic => funext fun m => Machine.written_of_sameOutput hsame m _

end World

namespace Execution

open World

variable {w x : World} {m : Machine} {child child' : Child} {output : Handle}

/-- After waiting for a child that has ended there are log records more. -/
theorem logs_waits_ended (hfresh : w.PidsFresh) (hx : Logs m w x)
    (hchildren : x.children = w.children ++ [child]) (hpid : child.process.pid = w.nextPid)
    (hended : isRunning child = false) : Logs m w ((waits [w.nextPid]).run x).2 := by
  have hchild : x.child? w.nextPid = some child := by
    rw [child?_of_children hfresh hchildren (Nat.le_refl _)]
    simp [hpid]
  obtain ⟨y, hy, hfinal⟩ := logs_waits_one hchild
  rw [finish_ended hended] at hfinal
  exact hx.trans (hy.trans hfinal)

/-- A number that is open for reading from a pipe gives what the pipe holds. -/
theorem run_peek_pipe {c : Context} {fd : Nat} {handle : Handle} {p : Nat} {pipe : Pipe}
    (hget : Table.get? fd c.self.descriptors = some handle)
    (hopened : c.machine.opened? handle.description = some ⟨.pipeRead p, 0, false, true, false⟩)
    (hpipe : c.machine.pipes[p]? = some pipe) :
    (Call.peek fd).run c = (.ok pipe.content, c) := by
  unfold Machine.opened? at hopened
  obtain ⟨⟨channel, offset, append, readable, writable⟩, hdesc, heq⟩ :=
    Option.map_eq_some_iff.1 hopened
  cases heq
  rw [Call.run_peek hget, Machine.ahead_pipe hdesc hpipe]

/-- The second stage finds an empty pipe when the first one has reported. -/
theorem run_peek_unfed (hsound : w.Sound) {y : World} {diagnostic : Text} {before : List Log.Record}
    (hmachine : y.machine = w.logged before (w.reported diagnostic w.machine.withPipe))
    (htable : child.process.descriptors = DescriptorTable.atExec
      (Table.put stdin ⟨w.machine.descriptions.length, false⟩ w.self.descriptors)) :
    (Call.peek stdin).run ⟨child.process, y.withReaders⟩ =
      (.ok (.finite []), ⟨child.process, y.withReaders⟩) := by
  have hget : Table.get? stdin child.process.descriptors =
      some ⟨w.machine.descriptions.length, false⟩ := by
    rw [htable]
    exact DescriptorTable.get?_atExec_put rfl _ _
  -- Reports and records are appended; no description is moved by them.
  have hkeeps : Machine.Keeps w.machine.withPipe y.machine := by
    rw [hmachine]
    exact (Machine.keeps_written _ _ _ _).trans (Machine.keeps_foldl_noted _ _ _ _)
  have hopened : y.machine.opened? w.machine.descriptions.length =
      some ⟨.pipeRead w.machine.pipes.length, 0, false, true, false⟩ := by
    rw [hkeeps.opened?]
    unfold Machine.opened? Machine.description? Machine.withPipe
    simp [Description.asOpened]
  have hpipe : y.machine.pipes[w.machine.pipes.length]? = some ⟨.finite [], true⟩ := by
    rw [hmachine]
    exact hsound.pipe_logged before diagnostic
  -- Who reads from the pipe is told anew for the child, its content is not.
  have hreaders : ∃ hasReader, y.withReaders.pipes[w.machine.pipes.length]? =
      some ⟨.finite [], hasReader⟩ := by
    unfold withReaders
    rw [List.getElem?_mapIdx, hpipe]
    exact ⟨_, rfl⟩
  obtain ⟨hasReader, hreaders⟩ := hreaders
  exact run_peek_pipe (c := ⟨child.process, y.withReaders⟩) hget hopened hreaders

theorem content_withReaders (w : World) :
    w.withReaders.pipes.map Pipe.content = w.machine.pipes.map Pipe.content := by
  refine List.ext_getElem? fun k => ?_
  unfold withReaders
  rw [List.getElem?_map, List.getElem?_map, List.getElem?_mapIdx]
  cases w.machine.pipes[k]? <;> rfl

variable {writer reader : List Text} {left right : ArgVector} {t t' : DescriptorTable}
  {readEnd writeEnd : Nat} {u : World}

/-- The first stage has ended, and its report is with the shell. -/
theorem machine_writer (hgrants : w.GrantsDuplicates)
    (hfree : w.self.descriptors.FreeFor readEnd writeEnd)
    (hout : Table.get? stdout w.self.descriptors = some output)
    (hwriter : Forks writer (stageDiagnostic 1 writer) t w.machine.withPipe child
      (w.withPipe readEnd writeEnd) u) (hended : isRunning child = false) :
    u.machine = w.reported (stageDiagnostic 1 writer) w.machine.withPipe := by
  rw [hwriter.reported hended hgrants, reported_withPipe hfree hout]

/-- The second stage has ended too, and its report goes to the output of the shell like the first
one. -/
theorem machine_reader (hgrants : w.GrantsDuplicates)
    (hfree : w.self.descriptors.FreeFor readEnd writeEnd)
    (hout : Table.get? stdout w.self.descriptors = some output)
    (hwriter : Forks writer (stageDiagnostic 1 writer) t w.machine.withPipe child
      (w.withPipe readEnd writeEnd) u) (hended : isRunning child = false)
    (hreader : Forks reader (stageDiagnostic 2 reader) t' u.machine child' u x)
    (hended' : isRunning child' = false) :
    x.machine = w.reported (stageDiagnostic 2 reader)
      (w.reported (stageDiagnostic 1 writer) w.machine.withPipe) := by
  have hreported : u.reported = w.reported := by
    rw [← reported_withPipe hfree hout]
    unfold World.reported
    rw [hwriter.joins.self]
  have hgrants' : u.GrantsDuplicates := by
    unfold GrantsDuplicates
    rw [hwriter.faults]
    exact hgrants
  rw [hreader.reported hended' hgrants', hreported,
    machine_writer hgrants hfree hout hwriter hended]

/-- Both ends are closed again, so that the shell has the numbers from before the line. -/
theorem logs_closing (hfree : w.self.descriptors.FreeFor readEnd writeEnd)
    (hself : x.self = (w.withPipe readEnd writeEnd).self) (hlog : x.log = w.log)
    (huserland : x.userland = w.userland) : Logs x.machine w (x.closing readEnd writeEnd) :=
  .of_eq (congrArg Process.descriptors (self_closing hfree hself)) hlog huserland

/-- Both children are found by their numbers, which no older child has. -/
theorem child?_both (hfresh : w.PidsFresh) (hpid : child.process.pid = w.nextPid)
    (hpid' : child'.process.pid = w.nextPid + 1)
    (hchildren : x.children = w.children ++ [child, child']) :
    x.child? w.nextPid = some child ∧ x.child? (w.nextPid + 1) = some child' := by
  rw [child?_of_children hfresh hchildren (Nat.le_refl _),
    child?_of_children hfresh hchildren (Nat.le_succ _)]
  simp [hpid, hpid']

/-- A pipeline without a second stage. -/
theorem unfed_half (hfresh : w.PidsFresh) (hgrants : w.GrantsDuplicates)
    (hfree : w.self.descriptors.FreeFor readEnd writeEnd)
    (hout : Table.get? stdout w.self.descriptors = some output)
    (hwriter : Forks writer (stageDiagnostic 1 writer) t w.machine.withPipe child
      (w.withPipe readEnd writeEnd) u) (hended : isRunning child = false) (right : ArgVector) :
    Unfed w right (w.reported (stageDiagnostic 1 writer) w.machine.withPipe)
      ((waits [w.nextPid]).run ((u.counting .fork).closing readEnd writeEnd)).2 := by
  have hjoins := hwriter.joins
  have hlaunched : Logs u.machine w ((u.counting .fork).closing readEnd writeEnd) :=
    logs_closing (x := u.counting .fork) hfree hjoins.self hwriter.logs.log hwriter.logs.userland
  obtain ⟨records, hrecords⟩ :=
    (logs_waits_ended hfresh hlaunched hjoins.children hjoins.pid hended).machine
  rw [machine_writer hgrants hfree hout hwriter hended] at hrecords
  exact .alone records hrecords

/-- A pipeline with both stages. -/
theorem unfed_whole (hfresh : w.PidsFresh) (hsound : w.Sound) (hgrants : w.GrantsDuplicates)
    (hfree : w.self.descriptors.FreeFor readEnd writeEnd)
    (hout : Table.get? stdout w.self.descriptors = some output) (hright : argv right = .ok reader)
    (hwriter : Forks writer (stageDiagnostic 1 writer) t w.machine.withPipe child
      (w.withPipe readEnd writeEnd) u)
    (hreader : Forks reader (stageDiagnostic 2 reader)
      (DescriptorTable.atExec (Table.put stdin ⟨w.machine.descriptions.length, false⟩
        w.self.descriptors)) u.machine child' u x)
    (hended : isRunning child = false) (records : List Log.Record) :
    Unfed w right (w.reported (stageDiagnostic 1 writer) w.machine.withPipe)
      ((waits [w.nextPid, w.nextPid + 1]).run ((x.closing readEnd writeEnd).noting records)).2 := by
  have hjoins := hwriter.joins
  have hjoins' := hreader.joins
  have hpid' : child'.process.pid = w.nextPid + 1 := hjoins'.pid.trans hjoins.nextPid
  have hclosed : Logs x.machine w (x.closing readEnd writeEnd) :=
    logs_closing hfree (hjoins'.self.trans hjoins.self)
      (hreader.logs.log.trans hwriter.logs.log) (hreader.logs.userland.trans hwriter.logs.userland)
  have hchildren : ((x.closing readEnd writeEnd).noting records).children =
      w.children ++ [child, child'] := by
    show x.children = _
    rw [hjoins'.children, hjoins.children, List.append_assoc]
    rfl
  obtain ⟨hfirst, hsecond⟩ := child?_both hfresh hjoins.pid hpid' hchildren
  obtain ⟨y, hy, hfinal⟩ := logs_waits_two hfirst hsecond (Nat.ne_of_lt (Nat.lt_succ_self _)) hended
  have hbefore := (hclosed.trans (logs_noting _ records)).trans hy
  -- The second stage has reported too, or it runs a program on an empty input.
  cases hrunning : isRunning child' with
  | false =>
    rw [finish_ended hrunning] at hfinal
    obtain ⟨more, hmore⟩ := (hbefore.trans hfinal).machine
    rw [machine_reader hgrants hfree hout hwriter hended hreader hrunning] at hmore
    exact .unread hright more hmore
  | true =>
    obtain ⟨hsame, htable, image, hfate⟩ := hreader.running hrunning
    obtain ⟨before, hrecords⟩ := hbefore.machine
    obtain ⟨after, hafter⟩ := hfinal.machine
    rw [hsame, machine_writer hgrants hfree hout hwriter hended] at hrecords
    rw [finish_running hfate, hbefore.userland, hbefore.logged_eq] at hafter
    have hinput := run_peek_unfed hsound hrecords htable
    have hpipes := content_withReaders y
    rw [hrecords] at hpipes
    have hfound : y.withReaders = { y.machine with pipes := y.withReaders.pipes } := rfl
    rw [hrecords] at hfound
    exact .read image before after y.withReaders.pipes hfound hpipes hinput hafter

/-- A child that has ended, with nothing but log records before the wait. -/
theorem reported_one {args : List Text} {diagnostic : Text} (hfresh : w.PidsFresh)
    (hgrants : w.GrantsDuplicates) (hchild : Forks args diagnostic t m child w u)
    (records : List Log.Record)
    (hfirst : w.FirstFails ((waits [w.nextPid]).run (u.noting records)).2) :
    ∃ more, ((waits [w.nextPid]).run (u.noting records)).2.machine =
      w.logged more (w.reported diagnostic m) := by
  have hjoins := hchild.joins
  have henters : u.Enters [] ((waits [w.nextPid]).run (u.noting records)).2 :=
    enters_waits [w.nextPid] (u.noting records)
  have hended := hfirst.ended hjoins.pid (hjoins.enters.trans henters)
  obtain ⟨more, hmore⟩ := (logs_waits_ended hfresh (hchild.logs.trans (logs_noting u records))
    hjoins.children hjoins.pid hended).machine
  rw [hchild.reported hended hgrants] at hmore
  exact ⟨more, hmore⟩

/-- A target that was opened is as its mode leaves it, if the report does not go there. -/
theorem leaves_reported (hsound : w.Sound) {self : Process} {path : Bytes} {mode : RedirectMode}
    {tree : FileTree} {channel : Channel}
    (hopen : Call.openPath ⟨self, w.machine⟩ path (openMode mode) = .ok (tree, channel))
    (description : Description) (diagnostic : Text) {i : Inode} (hchannel : channel = .node i)
    (hout : ¬w.machine.LeadsTo w.self.descriptors stdout channel) :
    ((w.reported diagnostic (w.machine.opening tree description)).tree.node? i).map Node.kind =
      some (mode.leaves ((w.machine.tree.node? i).map Node.kind)) := by
  subst hchannel
  have hout' : ¬(w.machine.opening tree description).LeadsTo w.self.descriptors stdout (.node i) :=
    mt (Machine.leadsTo_of_append rfl hsound.self) hout
  have hnode := Machine.node?_of_behind (Machine.behind_written hout' diagnostic.bytes)
  have hleaves := Call.openPath_leaves hopen
  exact (congrArg (Option.map Node.kind) hnode).trans hleaves

/-- And so it stays, if the log does not go there. -/
theorem node?_logged (hsound : w.Sound) {tree : FileTree} (description : Description)
    (diagnostic : Text) (records : List Log.Record) {i : Inode}
    (hlog : ∀ sink ∈ w.log, ¬w.machine.LeadsTo w.self.descriptors sink.descriptor (.node i)) :
    (w.logged records (w.reported diagnostic (w.machine.opening tree description))).tree.node? i =
      (w.reported diagnostic (w.machine.opening tree description)).tree.node? i := by
  have hkeeps : Machine.Keeps (w.machine.opening tree description)
      (w.reported diagnostic (w.machine.opening tree description)) := Machine.keeps_written _ _ _ _
  refine Machine.node?_of_behind (Machine.behind_foldl_noted (fun sink hsink hleads => ?_) records)
  exact hlog sink hsink
    (Machine.leadsTo_of_append rfl hsound.self (hkeeps.leadsTo.1 hleads))

/-- **From the launch on**, when the first child enters no program. -/
theorem reported_of_launching {p : Plan} {r : (Except ShellError Unit × List Nat) × World}
    (hfresh : w.PidsFresh) (hsound : w.Sound) (hgrants : w.GrantsDuplicates)
    (hout : Table.get? stdout w.self.descriptors = some output) (h : Launching w p r)
    (hfirst : w.FirstFails ((waits r.1.2).run r.2).2) :
    p.Reported w ((waits r.1.2).run r.2).2 := by
  cases h with
  | unforked e hself hmachine hchildren hnext henters =>
    -- Where no child was made, no program can have failed to start.
    exact absurd hfirst.1 (Nat.not_lt.2 (Nat.le_of_eq hnext))
  | unused => exact absurd hfirst.1 (Nat.lt_irrefl _)
  | simple hargs hchild records =>
    obtain ⟨more, hmore⟩ := reported_one hfresh hgrants hchild records hfirst
    exact .simple hargs more hmore
  | @half left right writer hleft e readEnd writeEnd hfree child u hwriter =>
    have hjoins := hwriter.joins
    have hpiped := w.enters_withPipe readEnd writeEnd
    have henters : u.Enters [] ((waits [w.nextPid]).run
        ((u.counting .fork).closing readEnd writeEnd)).2 :=
      enters_waits [w.nextPid] ((u.counting .fork).closing readEnd writeEnd)
    -- The first child enters no program, neither before the wait nor after it, and so has ended.
    have hended := hfirst.ended hjoins.pid (hpiped.trans (hjoins.enters.trans henters))
    exact .pipeline hleft (hsound.pipe_logged [] _)
      (unfed_half hfresh hgrants hfree hout hwriter hended right)
  | @whole left right writer reader hleft hright readEnd writeEnd hfree child child' u x hwriter
      hreader records =>
    have hjoins := hwriter.joins
    have hpiped := w.enters_withPipe readEnd writeEnd
    have henters : x.Enters [] ((waits [w.nextPid, w.nextPid + 1]).run
        ((x.closing readEnd writeEnd).noting records)).2 :=
      enters_waits [w.nextPid, w.nextPid + 1] ((x.closing readEnd writeEnd).noting records)
    have hended := hfirst.ended hjoins.pid
      (hpiped.trans (hjoins.enters.trans (hreader.joins.enters.trans henters)))
    exact .pipeline hleft (hsound.pipe_logged [] _)
      (unfed_whole hfresh hsound hgrants hfree hout hright hwriter hreader hended records)
  | @untargeted v args target mode child u hchild hended hopened records =>
    obtain ⟨more, hmore⟩ := reported_one hfresh hgrants hchild records hfirst
    obtain ⟨made, e, htrace, hevent⟩ := hopened
    obtain ⟨after, hafter, -⟩ := enters_waits [w.nextPid] (u.noting records)
    refine .unopened ⟨after ++ made, e, ?_, List.mem_append_right _ hevent⟩ more hmore
    rw [List.append_assoc, ← htrace]
    exact hafter
  | @targeted v args hargs target mode self tree channel hself hopen child u hchild records =>
    obtain ⟨more, hmore⟩ := reported_one hfresh hgrants hchild records hfirst
    refine .opened hargs hself hopen more hmore
      (fun i hchannel hleads => leaves_reported hsound hopen _ _ hchannel hleads)
      fun i hchannel hlog => ?_
    rw [hmore]
    subst hchannel
    exact node?_logged hsound _ _ more hlog

end Execution

/-- The first world with no more numbers than a pipe takes. -/
def World.narrow : World := { bare with self := { bare.self with limit := 5 } }

namespace Shell

open World

/-- Only children of a plan take numbers of processes. -/
theorem nextPid_replaceImage (v : ArgVector) (w : World) :
    ((Execution.replaceImage v).run w).2.nextPid = w.nextPid := by
  have hreplacement := Execution.replacement_replaceImage v w
  generalize (Execution.replaceImage v).run w = r at hreplacement
  cases hreplacement with
  | unfit h => rfl
  | failed h e hmade records calls hu =>
    rw [hu]
    rfl
  | started h image hu => exact (Proc.exec_entered hu).2.1

/-- **When the first program of a line does not start, the report of that goes where the shell
writes, and nowhere else.** However few numbers are left, a pipeline leaves its pipe empty, and its
second stage finds nothing in its input; a target is as opening it leaves it, or it could not be
opened and nothing has happened to it. All this takes fresh numbers of processes, open numbers that
lead somewhere with input and output among them, and duplicates that are refused only for want of a
number. -/
theorem exec_reports (line : Text) (shell : Shell) {w : World} (hfresh : w.PidsFresh)
    (hsound : w.Sound) (hopen : ∀ fd ≤ 2, (Table.get? fd w.self.descriptors).isSome = true)
    (hgrants : w.GrantsDuplicates)
    (hfirst : w.FirstFails (((exec line).start shell).run w).2) :
    ∃ p records, (planned shell w line).outcome = .ok (some p) ∧
      p.Reported (w.noting records) (((exec line).start shell).run w).2 := by
  obtain ⟨input, hin⟩ := Option.isSome_iff_exists.1 (hopen Execution.stdin (by decide))
  obtain ⟨output, hout⟩ := Option.isSome_iff_exists.1 (hopen Execution.stdout (by decide))
  have hcourse := course_exec line shell w
  generalize ((exec line).start shell).run w = r at hcourse hfirst
  cases hcourse with
  -- The other courses make no child, so that there is no first program.
  | refused h records => exact absurd hfirst.1 (Nat.lt_irrefl _)
  | settled flow h records => exact absurd hfirst.1 (Nat.lt_irrefl _)
  | moved operand records after hcd hafter =>
    cases Builtin.move_of_cd hcd <;> exact absurd hfirst.1 (Nat.lt_irrefl _)
  | helped records after =>
    rw [Proc.run_write] at hfirst
    exact absurd hfirst.1 (Nat.lt_irrefl _)
  | became v records h =>
    have hnext := nextPid_replaceImage v (w.noting records)
    rw [h] at hnext
    exact absurd hfirst.1 (Nat.not_lt.2 (Nat.le_of_eq hnext))
  | @ran p hp records r w' h =>
    have hlaunching := Execution.launching_launch (w := w.noting records) p hin hout
    rw [Execution.run_runPlan] at h
    obtain rfl : _ = w' := congrArg Prod.snd h
    exact ⟨p, records, hp, Execution.reported_of_launching (hfresh.noting records)
      (hsound.noting records) hgrants hout hlaunching hfirst⟩

/-- Both stages report, one after the other. -/
theorem exec_reports_narrow :
    let r := ((exec (Text.lit "a | b")).start ⟨[Path.slash], 2⟩).run narrow
    r.2.machine.out = (Execution.stageDiagnostic 1 [Text.lit "a"] ++
      Execution.stageDiagnostic 2 [Text.lit "b"]).bytes ∧
    ∃ p records, (planned ⟨[Path.slash], 2⟩ narrow (Text.lit "a | b")).outcome = .ok (some p) ∧
      p.Reported (narrow.noting records) r.2 := by
  have hbare : bare.PidsFresh := pidsFresh_start _ _ _ _ _ _
  have hbare' : bare.Sound := sound_start _ _ _ _ _ _
  -- A world with fewer numbers is as sound: the limit is not part of it.
  have hsound : narrow.Sound := by
    refine ⟨fun p hp => ?_, hbare'.pipes⟩
    obtain rfl := List.mem_singleton.1 hp
    exact hbare'.self
  have hforked : narrow.nextPid <
      (((exec (Text.lit "a | b")).start ⟨[Path.slash], 2⟩).run narrow).2.nextPid := by
    decide +kernel
  have hnone : ((((exec (Text.lit "a | b")).start ⟨[Path.slash], 2⟩).run
      narrow).2.trace.reverse).filterMap Event.entered? = [] := by
    decide +kernel
  refine ⟨by decide +kernel, exec_reports _ _ ⟨hbare.self, hbare.children⟩
    hsound (by decide) (fun _ => rfl) ⟨hforked, [], ?_, ?_⟩⟩
  · exact ⟨_, (List.append_nil _).symm, hnone⟩
  · exact fun _ => List.not_mem_nil

end Shell

end LineShell
