import LineShell.Proofs.Accounting
import LineShell.Proofs.InheritedChildren
import LineShell.Proofs.Topology
import LineShell.Proofs.ToleratedFailures
/-!
# What every line finds

What is said of single lines is said of worlds in which open numbers lead somewhere (`World.Sound`),
the numbers of processes that are still to come are fresh (`World.PidsFresh`), and input, output and
error output are open. `World.Ready` gathers this. It holds at the start (`World.ready_start`), each
line from which the shell returns keeps it (`Shell.ready_exec`), and so do any number of them
(`Shell.Executes.ready`).

The programs have to leave what is open, `Call.KeepsSound`: they may open more, but they take away
nothing that others have open.
-/

namespace LineShell

variable {α β : Type}

/-! ### Calls that leave what is open -/

/-- The open numbers of the process lead to open descriptions, and what leads to a pipe leads to one
that is there. -/
structure Context.Sound (c : Context) : Prop where
  handles : ∀ e ∈ c.self.descriptors, e.2.description < c.machine.descriptions.length
  pipes : ∀ d p, c.machine.channel? d = some (.pipeRead p) ∨
    c.machine.channel? d = some (.pipeWrite p) → p < c.machine.pipes.length

/-- A sound process is left sound, and no open description is taken away. -/
def Call.KeepsSound (act : Call α) : Prop := ∀ c : Context, c.Sound →
  (act.run c).2.Sound ∧ c.machine.descriptions.length ≤ (act.run c).2.machine.descriptions.length

namespace Call

theorem keepsSound_pure (a : α) : KeepsSound (pure a : Call α) := fun _ h => ⟨h, Nat.le_refl _⟩

theorem KeepsSound.bind {x : Call α} {f : α → Call β} (hx : KeepsSound x)
    (hf : ∀ a, KeepsSound (f a)) : KeepsSound (x >>= f) := by
  intro c h
  obtain ⟨hmid, hle⟩ := hx c h
  obtain ⟨hafter, hle'⟩ := hf (x.run c).1 (x.run c).2 hmid
  exact ⟨hafter, Nat.le_trans hle hle'⟩

theorem keepsSound_write (fd : Nat) (bytes : Bytes) : KeepsSound (Call.write fd bytes) := by
  intro c h
  have hkeeps := Machine.keeps_written c.self.descriptors fd bytes c.machine
  have hafter : ((Call.write fd bytes).run c).2 =
      { c with machine := c.machine.written c.self.descriptors fd bytes } := by
    rw [run_write]
  rw [hafter]
  refine ⟨⟨fun e he => ?_, fun d p hchannel => ?_⟩, Nat.le_of_eq hkeeps.length.symm⟩
  · rw [hkeeps.length]
    exact h.handles e he
  · rw [hkeeps.pipes]
    rw [hkeeps.channel?] at hchannel
    exact h.pipes d p hchannel

end Call

namespace World

variable {w v : World}

/-! ### Worlds with as much open -/

theorem mem_holders {process : Process} : process ∈ w.holders ↔
    process = w.self ∨ ∃ c ∈ w.children, isRunning c = true ∧ c.process = process := by
  unfold holders
  rw [List.mem_cons, List.mem_map]
  simp only [List.mem_filter, and_assoc]

/-- A world is sound if its numbers were open before, and nothing that was open is gone. -/
theorem Sound.mono (h : w.Sound)
    (hholders : ∀ process ∈ v.holders, ∃ before ∈ w.holders,
      process.descriptors ⊆ before.descriptors)
    (hlength : w.machine.descriptions.length ≤ v.machine.descriptions.length)
    (hpipes : ∀ d p, v.machine.channel? d = some (.pipeRead p) ∨
      v.machine.channel? d = some (.pipeWrite p) → p < v.machine.pipes.length) : v.Sound := by
  refine ⟨fun process hprocess e he => ?_, hpipes⟩
  obtain ⟨before, hbefore, hsub⟩ := hholders process hprocess
  exact Nat.lt_of_lt_of_le (h.handles before hbefore e (hsub he)) hlength

/-- What the process has open counts, not what else is known of it. -/
theorem Sound.of_eq (h : w.Sound) (hself : v.self.descriptors ⊆ w.self.descriptors)
    (hchildren : v.children ⊆ w.children) (hmachine : v.machine = w.machine) : v.Sound := by
  refine h.mono (fun process hprocess => ?_) (Nat.le_of_eq (by rw [hmachine]))
    (by rw [hmachine]; exact h.pipes)
  rcases mem_holders.1 hprocess with rfl | ⟨c, hc, hrunning, rfl⟩
  · exact ⟨w.self, List.mem_cons_self, hself⟩
  · exact ⟨c.process, mem_holders.2 (.inr ⟨c, hchildren hc, hrunning, rfl⟩), List.Subset.refl _⟩

theorem Sound.altered (h : w.Sound) (i : Interrupts) (records : List Log.Record)
    (calls : List CallKind) : (w.altered i records calls).Sound :=
  (h.noting records).of_eq (List.Subset.refl _) (List.Subset.refl _) rfl

/-- A child that runs begins with sound numbers. -/
theorem Sound.child (h : w.Sound) {c : Child} (hc : c ∈ w.children)
    (hrunning : isRunning c = true) : Context.Sound ⟨c.process, w.withReaders⟩ := by
  refine ⟨h.handles c.process (mem_holders.2 (.inr ⟨c, hc, hrunning, rfl⟩)), fun d p hchannel => ?_⟩
  show p < (w.machine.pipes.mapIdx _).length
  rw [List.length_mapIdx]
  exact h.pipes d p hchannel

/-- What a child runs leaves the others what they have open. -/
theorem Sound.finish (h : w.Sound) (hprograms : ∀ image, (w.userland image).KeepsSound) {c : Child}
    (hc : c ∈ w.children) :
    w.machine.descriptions.length ≤ (w.finish c).1.machine.descriptions.length ∧
    ∀ d p, (w.finish c).1.machine.channel? d = some (.pipeRead p) ∨
      (w.finish c).1.machine.channel? d = some (.pipeWrite p) →
        p < (w.finish c).1.machine.pipes.length := by
  unfold World.finish
  cases hfate : c.fate with
  | ended status => exact ⟨Nat.le_refl _, h.pipes⟩
  | running image =>
    obtain ⟨hsound, hlength⟩ := hprograms image ⟨c.process, w.withReaders⟩
      (h.child hc (by unfold isRunning; rw [hfate]))
    exact ⟨hlength, hsound.pipes⟩

theorem Sound.finishPid (h : w.Sound) (hprograms : ∀ image, (w.userland image).KeepsSound)
    (pid : Nat) : (w.finishPid pid).Sound := by
  unfold World.finishPid
  cases hfound : w.child? pid with
  | none => exact h
  | some c =>
    obtain ⟨hlength, hpipes⟩ := h.finish hprograms (List.mem_of_find?_eq_some hfound)
    obtain ⟨m, hm⟩ := finish_eq w c
    show ((w.finish c).1.setChild (w.finish c).2).Sound
    rw [hm] at hlength hpipes ⊢
    refine h.mono (fun process hprocess => ⟨process, ?_, List.Subset.refl _⟩) hlength hpipes
    -- Whoever has numbers afterwards had them before: the child itself has ended.
    rcases mem_holders.1 hprocess with rfl | ⟨d, hd, hrunning, rfl⟩
    · exact List.mem_cons_self
    · obtain ⟨before, hbefore, rfl⟩ := List.mem_map.1 hd
      by_cases hsame : (before.process.pid == (w.finish c).2.process.pid) = true
      · rw [if_pos hsame, isRunning_finish] at hrunning
        cases hrunning
      · rw [if_neg hsame] at hrunning ⊢
        exact mem_holders.2 (.inr ⟨before, hbefore, hrunning, rfl⟩)

end World

/-! ### Waiting -/

/-- The computation keeps a world sound, as long as the programs do. -/
structure Proc.KeepsSound (act : Proc α) : Prop where
  userland : ∀ w, (act.run w).2.userland = w.userland
  sound : ∀ w : World, (∀ image, (w.userland image).KeepsSound) → w.Sound → (act.run w).2.Sound

namespace Proc

open World

theorem keepsSound_pure (a : α) : KeepsSound (pure a : Proc α) := ⟨fun _ => rfl, fun _ _ h => h⟩

theorem KeepsSound.bind {x : Proc α} {f : α → Proc β} (hx : KeepsSound x)
    (hf : ∀ a, KeepsSound (f a)) : KeepsSound (x >>= f) := by
  refine ⟨fun w => ((hf _).userland _).trans (hx.userland w), fun w hprograms h => ?_⟩
  refine (hf (x.run w).1).sound (x.run w).2 ?_ (hx.sound w hprograms h)
  rw [hx.userland]
  exact hprograms

theorem keepsSound_log (record : Log.Record) : KeepsSound (Proc.log record) := by
  refine ⟨fun w => ?_, fun w _ h => ?_⟩
  · rw [run_log]
    rfl
  · rw [run_log]
    exact h.noting [record]

theorem keepsSound_waitFor (pid : Nat) : KeepsSound (Proc.waitFor pid) := by
  refine ⟨fun w => ?_, fun w hprograms h => ?_⟩
  · obtain ⟨m, children, hfinish, -⟩ := World.finishPid_eq (w.awaiting pid) pid
    rw [run_waitFor, hfinish]
    rfl
  · rw [run_waitFor]
    have hawaiting : (w.awaiting pid).Sound :=
      h.of_eq (List.Subset.refl _) (List.Subset.refl _) rfl
    exact (hawaiting.finishPid hprograms pid).of_eq (List.Subset.refl _)
      (fun _ hc => (List.mem_filter.1 hc).1) rfl

end Proc

theorem Signals.keepsSound_guarded {act : Proc α} (h : act.KeepsSound) :
    (Signals.guarded act).KeepsSound := by
  refine ⟨fun w => ?_, fun w hprograms hsound => ?_⟩
  · obtain ⟨before, after, hrun⟩ := run_guarded act w
    rw [hrun]
    exact h.userland (w.altered (w.installed .ignoring) before (.signalAction :: w.calls))
  · obtain ⟨before, after, hrun⟩ := run_guarded act w
    rw [hrun]
    have hact := h.sound (w.altered (w.installed .ignoring) before (.signalAction :: w.calls))
      hprograms (hsound.altered _ _ _)
    exact hact.altered _ _ _

namespace Execution

open Proc

theorem keepsSound_waitFor (pid : Nat) : Proc.KeepsSound (waitFor pid) := by
  refine (Proc.keepsSound_waitFor pid).bind fun r => ?_
  cases r with
  | ok status => exact keepsSound_log _
  | error e => exact keepsSound_log _

theorem keepsSound_waits (pids : List Nat) : (waits pids).KeepsSound := by
  have hforM : (pids.forM waitFor).KeepsSound := by
    induction pids with
    | nil => exact keepsSound_pure _
    | cons pid pids ih => exact (keepsSound_waitFor pid).bind fun _ => ih
  unfold waits
  split
  · exact keepsSound_pure _
  · exact Signals.keepsSound_guarded hforM

end Execution

/-! ### Launching -/

namespace Call

/-- No node is opened as the end of a pipe. -/
theorem NodeOpens.not_pipe {t t' : FileTree} {i : Inode} {mode : OpenMode} {channel : Channel}
    (h : NodeOpens t i mode t' channel) (p : Nat) :
    ¬(channel = .pipeRead p ∨ channel = .pipeWrite p) := by
  cases h <;> simp

/-- Opening the end of a pipe again gives an end of the same pipe, and nothing else gives one. -/
theorem reopen_pipe {t t' : FileTree} {mode : OpenMode} {channel opened : Channel}
    (h : reopen t channel mode = .ok (t', opened)) {p : Nat}
    (hpipe : opened = .pipeRead p ∨ opened = .pipeWrite p) :
    channel = .pipeRead p ∨ channel = .pipeWrite p := by
  unfold reopen at h
  cases channel with
  | node i => exact absurd hpipe ((nodeOpens_of_openNode h).not_pipe p)
  | pipeRead q | pipeWrite q =>
    cases h
    split at hpipe <;> simpa using hpipe
  | device | console | terminal =>
    cases h
    simp at hpipe

/-- What is opened leads to a pipe only if something open has led there. -/
theorem openPath_pipe {c : Context} {path : Bytes} {mode : OpenMode} {tree : FileTree}
    {channel : Channel} (h : openPath c path mode = .ok (tree, channel)) {p : Nat}
    (hpipe : channel = .pipeRead p ∨ channel = .pipeWrite p) :
    ∃ d, c.machine.channel? d = some (.pipeRead p) ∨ c.machine.channel? d = some (.pipeWrite p) := by
  cases pathOpens_of_openPath h with
  | made => simp at hpipe
  | @again _ _ _ handle desc _ _ _ _ _ hdesc h =>
    refine ⟨handle.description, ?_⟩
    unfold Machine.channel?
    rw [hdesc]
    exact (reopen_pipe h hpipe).imp (congrArg some) (congrArg some)
  | node _ h => exact absurd hpipe (h.not_pipe p)

end Call

/-- An open description is one from before, or a new one. -/
theorem Machine.channel?_of_append {m m' : Machine} {more : List Description}
    (h : m'.descriptions = m.descriptions ++ more) {d : Nat} {channel : Channel}
    (hd : m'.channel? d = some channel) :
    m.channel? d = some channel ∨ ∃ desc ∈ more, desc.channel = channel := by
  obtain ⟨desc, hdesc, rfl⟩ := Option.map_eq_some_iff.1 hd
  unfold description? at hdesc
  rw [h] at hdesc
  rcases Nat.lt_or_ge d m.descriptions.length with hold | hnew
  · rw [List.getElem?_append_left hold] at hdesc
    exact .inl (Option.map_eq_some_iff.2 ⟨desc, hdesc, rfl⟩)
  · rw [List.getElem?_append_right hnew] at hdesc
    exact .inr ⟨desc, List.mem_of_getElem? hdesc, rfl⟩

namespace World

variable {p : Plan} {new : List Child} {w v : World}

/-- What leads to a pipe when the shell begins to wait leads to one that is there. -/
theorem Launched.pipes (h : Launched p new w v) (hsound : w.Sound) (d q : Nat)
    (hd : v.machine.channel? d = some (.pipeRead q) ∨ v.machine.channel? d = some (.pipeWrite q)) :
    q < v.machine.pipes.length := by
  obtain ⟨m, hopens, hkeeps⟩ := h.machine
  obtain ⟨channel, hend, hd⟩ : ∃ channel : Channel,
      (channel = .pipeRead q ∨ channel = .pipeWrite q) ∧ v.machine.channel? d = some channel :=
    hd.elim (fun hd => ⟨_, .inl rfl, hd⟩) fun hd => ⟨_, .inr rfl, hd⟩
  have hbefore : ∀ d, w.machine.channel? d = some channel → q < w.machine.pipes.length :=
    fun d hd => hsound.pipes d q
      (hend.imp (hd.trans <| congrArg some ·) (hd.trans <| congrArg some ·))
  rw [hkeeps.channel?] at hd
  rw [hkeeps.pipes]
  cases hopens with
  | simple | unpiped | untargeted => exact hbefore d hd
  | piped =>
    have hmore : w.machine.pipes.length < w.machine.withPipe.pipes.length := by
      show _ < (w.machine.pipes ++ [_]).length
      rw [List.length_append]
      exact Nat.lt_succ_self _
    rcases Machine.channel?_of_append (List.append_assoc _ _ _) hd with hold | ⟨desc, hdesc, rfl⟩
    · exact Nat.lt_trans (hbefore d hold) hmore
    -- Both new descriptions lead to the new pipe.
    · simp only [List.cons_append, List.nil_append, List.mem_cons, List.not_mem_nil,
        or_false] at hdesc
      rcases hdesc with rfl | rfl <;> rcases hend with h | h <;> cases h <;> exact hmore
  | targeted args hchild hopen =>
    rcases Machine.channel?_of_append rfl hd with hold | ⟨desc, hdesc, rfl⟩
    · exact hbefore d hold
    -- A target that is the end of a pipe has been open before.
    · obtain rfl := List.mem_singleton.1 hdesc
      obtain ⟨d', hd'⟩ := Call.openPath_pipe hopen hend
      exact hsound.pipes d' q hd'

/-- A plan takes away no open description, and what a child finds in the place of a number of the
shell is among those that the plan opens. -/
theorem Launched.opens (h : Launched p new w v) :
    w.machine.descriptions.length ≤ v.machine.descriptions.length ∧
    ∀ i child fd handle, new[i]? = some child → isRunning child = true →
      p.replacement? w.machine.descriptions.length i = some (fd, handle) →
        handle.description < v.machine.descriptions.length := by
  obtain ⟨m, hopens, hkeeps⟩ := h.machine
  rw [hkeeps.length]
  cases hopens with
  | simple args => exact ⟨Nat.le_refl _, fun _ _ _ _ _ _ h => nomatch h⟩
  | unpiped left right hnew =>
    subst hnew
    exact ⟨Nat.le_refl _, fun _ _ _ _ h => nomatch h⟩
  -- The one child has ended, and finds nothing in the place of anything.
  | untargeted args target mode hended =>
    refine ⟨Nat.le_refl _, fun i child _ _ hi hrunning => ?_⟩
    rw [hended child (List.mem_of_getElem? hi)] at hrunning
    cases hrunning
  | piped left right =>
    have hlength : w.machine.withPipe.descriptions.length = w.machine.descriptions.length + 2 := by
      show (w.machine.descriptions ++ [_] ++ [_]).length = _
      simp
    refine ⟨by omega, fun i child fd handle _ _ hreplacement => ?_⟩
    -- The writer finds the second of the two new descriptions, and the reader the first.
    cases i with
    | zero =>
      cases hreplacement
      show _ + 1 < _
      omega
    | succ i =>
      cases hreplacement
      show w.machine.descriptions.length < _
      omega
  | targeted args hchild hopen =>
    have hlength : ∀ tree desc, (w.machine.opening tree desc).descriptions.length =
        w.machine.descriptions.length + 1 := fun _ _ => List.length_append
    rw [hlength]
    refine ⟨Nat.le_succ _, fun i child fd handle _ _ hreplacement => ?_⟩
    cases hreplacement
    exact Nat.lt_succ_self _

/-- **The world before the waits is sound.** -/
theorem Launched.sound (h : Launched p new w v) (hsound : w.Sound) : v.Sound := by
  obtain ⟨hgrown, hplaced⟩ := h.opens
  refine ⟨fun process hprocess e he => ?_, h.pipes hsound⟩
  rcases Nat.lt_or_ge e.2.description w.machine.descriptions.length with hold | hnew
  · exact Nat.lt_of_lt_of_le hold hgrown
  · obtain ⟨i, child, hi, hrunning, -, hreplacement⟩ := h.only hsound process hprocess e he hnew
    exact hplaced i child e.1 e.2 hi hrunning hreplacement

end World

/-! ### Lines -/

variable {w w' : World}

theorem Proc.sound_write (fd : Nat) (text : Text) (h : w.Sound) :
    ((Proc.write fd text).run w).2.Sound := by
  have hkeeps := Machine.keeps_written w.self.descriptors fd text.bytes w.machine
  rw [run_write]
  refine h.mono (fun process hprocess => ⟨process, hprocess, List.Subset.refl _⟩)
    (Nat.le_of_eq hkeeps.length.symm) fun d p hd => ?_
  rw [hkeeps.pipes]
  rw [hkeeps.channel?] at hd
  exact h.pipes d p hd

theorem Builtin.sound_cd (operand : Option Text) (shell : Shell) (h : w.Sound) :
    (((cd operand).start shell).run w).2.Sound := by
  have hmove := move_cd operand shell w
  generalize ((cd operand).start shell).run w = r at hmove ⊢
  cases hmove with
  | refused _ calls => exact h.of_eq (List.Subset.refl _) (List.Subset.refl _) rfl
  | lost _ directory calls => exact h.of_eq (List.Subset.refl _) (List.Subset.refl _) rfl
  | arrived cwd directory env records calls =>
    refine World.Sound.noting ?_ records
    exact h.of_eq (List.Subset.refl _) (List.Subset.refl _) rfl

namespace Execution

/-- A process that becomes a program keeps some of its numbers. -/
theorem sound_replaceImage (v : ArgVector) (h : w.Sound) : ((replaceImage v).run w).2.Sound := by
  have hreplacement := replacement_replaceImage v w
  generalize (replaceImage v).run w = r at hreplacement ⊢
  have haltered := fun calls => h.altered w.resetInterrupts [] calls
  cases hreplacement with
  | unfit => exact h
  | failed _ e hmade records calls hu =>
    refine World.Sound.altered ?_ _ _ _
    rw [hu]
    exact (haltered calls).of_eq (List.Subset.refl _) (List.Subset.refl _) rfl
  | @started args _ image u hu =>
    rw [Proc.run_exec] at hu
    rcases tryExec_cases args (w.altered w.resetInterrupts [] (.signalAction :: w.calls)) with
      ⟨e, hstart⟩ | ⟨image', hstart⟩
    · rw [hstart] at hu
      cases hu
    · rw [hstart] at hu
      cases hu
      exact (haltered (.signalAction :: w.calls)).of_eq (fun _ he => (List.mem_filter.1 he).1)
        (List.Subset.refl _) rfl

end Execution

namespace World

/-- **What every line finds.** -/
structure Ready (w : World) : Prop where
  sound : w.Sound
  pidsFresh : w.PidsFresh
  opened : ∀ fd ≤ 2, (Table.get? fd w.self.descriptors).isSome = true
  programs : ∀ image, (w.userland image).KeepsSound

/-- A session begins in such a world. -/
theorem ready_start (t : FileTree) (directory : Inode) (env : Environment)
    (directories : Directories) {userland : Userland} (input : Input)
    (hprograms : ∀ image, (userland image).KeepsSound) :
    (start t directory env directories userland input).Ready := by
  refine ⟨sound_start .., pidsFresh_start .., fun fd hfd => ?_, hprograms⟩
  rcases fd with _ | _ | _ | fd
  · rfl
  · rfl
  · rfl
  · omega

/-- Programs that write leave what is open. -/
theorem ready_speaking : speaking.Ready :=
  ready_start _ _ _ _ _ fun _ => (Call.keepsSound_write _ _).bind fun _ => Call.keepsSound_pure _

end World

namespace Shell

open World

variable {shell shell' : Shell}

/-- The programs of a world stay the same. -/
theorem userland_exec (line : Text) (shell : Shell) (w : World) :
    (((exec line).start shell).run w).2.userland = w.userland :=
  ((relates_exec (p := ⟨none, none, none⟩) line shell).onward w).userland

/-- A line leaves a sound world, also where the shell becomes a program. -/
theorem sound_exec (line : Text) (shell : Shell) (h : w.Ready) :
    (((exec line).start shell).run w).2.Sound := by
  obtain ⟨input, hin⟩ := Option.isSome_iff_exists.1 (h.opened Execution.stdin (by decide))
  obtain ⟨output, hout⟩ := Option.isSome_iff_exists.1 (h.opened Execution.stdout (by decide))
  have huserland := userland_exec line shell w
  have hcourse := course_exec line shell w
  generalize ((exec line).start shell).run w = r at hcourse huserland ⊢
  cases hcourse with
  | refused _ records => exact h.sound.noting records
  | settled flow _ records => exact h.sound.noting records
  | @moved operand records after r shell' w' hcd =>
    have hmoved := Builtin.sound_cd operand shell (h.sound.noting records)
    rw [hcd] at hmoved
    exact hmoved.noting after
  | helped records after =>
    exact (Proc.sound_write _ _ (h.sound.noting records)).noting after
  | @became v records r w' hrun =>
    have hreplaced := Execution.sound_replaceImage v (h.sound.noting records)
    rwa [hrun] at hreplaced
  | @ran p _ records r w' hrun =>
    obtain ⟨new, -, hlaunched⟩ := Execution.launched_of_launching
      (Execution.launching_launch (w := w.noting records) p hin hout)
    have hwaits := Execution.keepsSound_waits ((Execution.launch p).run (w.noting records)).1.2
    rw [Execution.run_runPlan] at hrun
    cases hrun
    refine hwaits.sound _ ?_ (hlaunched.sound (h.sound.noting records))
    -- The waits change no program, so the programs after the launch are those after the line.
    rw [← hwaits.userland, huserland]
    exact h.programs

/-- **A line from which the shell returns leaves what the next line finds.** -/
theorem ready_exec (line : Text) (shell : Shell) (h : w.Ready)
    (hreturns : Returns (((exec line).start shell).run w).1.1) :
    (((exec line).start shell).run w).2.Ready := by
  have hsettled := settled_course h.pidsFresh hreturns (course_exec line shell w)
  refine ⟨sound_exec line shell h, hsettled.pidsFresh h.pidsFresh, ?_, ?_⟩
  · rw [hsettled.descriptors]
    exact h.opened
  · rw [userland_exec]
    exact h.programs

/-- Some lines have been executed one after the other, and the shell is still there. -/
inductive Executes (shell : Shell) (w : World) : Shell → World → Prop
  | refl : Executes shell w shell w
  | line {shell' : Shell} {w' : World} (h : Executes shell w shell' w') (line : Text)
      (hreturns : Returns (((exec line).start shell').run w').1.1) :
      Executes shell w (((exec line).start shell').run w').1.2 (((exec line).start shell').run w').2

/-- **Any number of lines leave what the next line finds.** -/
theorem Executes.ready (h : Executes shell w shell' w') (hready : w.Ready) : w'.Ready := by
  induction h with
  | refl => exact hready
  | line h line hreturns ih => exact ready_exec line _ ih hreturns

end Shell

end LineShell
