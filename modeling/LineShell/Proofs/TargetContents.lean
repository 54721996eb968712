import LineShell.Proofs.FailureReports
import LineShell.Proofs.Planning
import LineShell.Proofs.Targets
import LineShell.Proofs.WrittenLines
import LineShell.Session.Run
/-!
# Targets under many lines

Lines that send the output of their commands to one and the same path, in any number and with either
operator. `Shell.Puts` is what one of them puts there: what its program writes, or nothing where no
program starts. `Shell.Passes` are the lines that run no command in a child. `Shell.Redirections` is
any sequence of the two.

The headline is `Shell.redirections_hold`: behind them the path holds what was put there from the last
truncating line on, as long as nothing that the shell itself writes goes there. Its log may
(`Shell.passes_logged`).
-/

namespace LineShell

open FileTree (root)
open Text (Trims)

/-! ### Lines with a target -/

namespace Line

/-- A line that runs a command with a target. -/
def redirecting (command : Text) (mode : RedirectMode) (target : Text) : Text :=
  command ++ ' ' :: (mode.operator ++ ' ' :: target)

/-- A text that structures nothing in a line. -/
structure IsFree (t : Text) : Prop where
  comment : '#' ∉ t
  bar : '|' ∉ t
  operator : '>' ∉ t

/-- An absolute path that is a target as it stands. -/
structure IsPath (target : Text) : Prop extends IsFree target where
  absolute : Path.isAbsolute target.bytes = true
  /-- There is no blank at either end. -/
  trims : Trims target target

variable {command target : Text} {mode : RedirectMode}

theorem IsPath.isTarget (h : IsPath target) (mode : RedirectMode) : IsTarget mode target where
  ne_nil := by
    rintro rfl
    cases h.absolute
  trims := h.trims
  comment := h.comment
  bar := h.bar
  operator := fun _ hwithin => h.operator (hwithin.subset List.mem_cons_self)

theorem ofLine_redirecting (hcommand : IsFree command) (htarget : IsPath target)
    (mode : RedirectMode) :
    Shape.ofLine (redirecting command mode target) = .redirected (command ++ [' ']) target mode :=
  Shape.ofLine_redirected hcommand.comment hcommand.bar hcommand.operator (htarget.isTarget mode)

end Line

open Line (redirecting IsFree IsPath)

namespace Shell

variable {shell : Shell} {w : World} {command target : Text} {mode : RedirectMode}

/-- What is planned is to run a command with the target. -/
theorem planned_redirecting (hcommand : IsFree command) (htarget : IsPath target) {p : Plan}
    (hp : (planned shell w (redirecting command mode target)).outcome = .ok (some p)) :
    ∃ v, p = .redirect v target mode := by
  unfold planned Plan.ofLine at hp
  rw [Line.ofLine_redirecting hcommand htarget] at hp
  unfold Plan.ofShape Plan.ofRedirection at hp
  dsimp only at hp
  split at hp
  · cases hp
  split at hp
  · cases hp
  · cases hp
    exact ⟨_, rfl⟩

/-- An empty or undefined command is nothing to run. -/
theorem planned_unusable (hcommand : IsFree command) (htarget : IsPath target)
    (h : ¬ArgVector.Usable w.self.environment.value? (Text.words command)) :
    (planned shell w (redirecting command mode target)).outcome = .ok none := by
  have hblank : Text.words (command ++ [' ']) = Text.words command :=
    Text.words_append command (b := [' ']) (Text.blanks_of_isAllBlank rfl)
  have hfree : ∀ segment ∈ (Shape.redirected (command ++ [' ']) target mode).segments,
      '#' ∉ segment := by
    intro segment hsegment
    rw [List.mem_singleton.1 hsegment]
    simpa using hcommand.comment
  unfold planned Plan.ofLine
  rw [Line.ofLine_redirecting hcommand htarget, Plan.ofShape_outcome _ _ hfree]
  rcases Nat.eq_zero_or_pos shell.maxArgs with hcap | hcap
  · rw [hcap]
    exact Plan.outcomeOf_zero _ _
  · exact Plan.outcomeOf_of_decides hcap
      (.noRedirected (Text.runs_iff.2 rfl) (by rwa [hblank]))

end Shell

/-! ### Worlds that aim at a target -/

/-- A path leads to a file or to where one can be made, the shell has an output, and neither this
output nor the log goes to the file. -/
structure World.Aims (path : Bytes) (i : Inode) (b : Option Bytes) (w : World) : Prop where
  holds : w.machine.tree.Holds path i b
  handles : ∀ e ∈ w.self.descriptors, e.2.description < w.machine.descriptions.length
  output : (Table.get? Execution.stdout w.self.descriptors).isSome = true
  grants : w.GrantsDuplicates
  unreported : ¬w.machine.LeadsTo w.self.descriptors Execution.stdout (.node i)
  unlogged : ∀ sink ∈ w.log, ¬w.machine.LeadsTo w.self.descriptors sink.descriptor (.node i)

namespace World

variable {v w : World} {m : Machine} {path : Bytes} {i : Inode} {b b' : Option Bytes}

/-- The world on another machine. -/
def on (w : World) (m : Machine) : World := { w with machine := m }

/-- What was open is open still, and leads where it led. -/
theorem Aims.of_opened (h : w.Aims path i b) (hdescriptors : v.self.descriptors = w.self.descriptors)
    (hfaults : v.faults = w.faults) (hlog : v.log = w.log)
    (hopened : ∀ d < w.machine.descriptions.length, v.machine.opened? d = w.machine.opened? d)
    (hholds : v.machine.tree.Holds path i b') : v.Aims path i b' := by
  -- Whatever a number leads to now, it led there before.
  have hleads : ∀ fd channel, v.machine.LeadsTo v.self.descriptors fd channel →
      w.machine.LeadsTo w.self.descriptors fd channel := by
    rintro fd channel ⟨handle, hget, hchannel⟩
    rw [hdescriptors] at hget
    refine ⟨handle, hget, ?_⟩
    rwa [Machine.channel?_eq, ← hopened _ (h.handles _ (Table.mem_of_get? hget)),
      ← Machine.channel?_eq]
  refine ⟨hholds, fun e he => ?_, ?_, ?_, mt (hleads _ _) h.unreported, ?_⟩
  · rw [hdescriptors] at he
    have hsame := hopened _ (h.handles e he)
    unfold Machine.opened? Machine.description? at hsame
    rw [List.getElem?_eq_getElem (h.handles e he)] at hsame
    obtain ⟨desc, hdesc, -⟩ := Option.map_eq_some_iff.1 hsame
    exact (List.getElem?_eq_some_iff.1 hdesc).1
  · rw [hdescriptors]
    exact h.output
  · unfold GrantsDuplicates
    rw [hfaults]
    exact h.grants
  · rw [hlog]
    exact fun sink hsink => mt (hleads _ _) (h.unlogged sink hsink)

theorem Aims.of_keeps (h : w.Aims path i b) (hkeeps : w.machine.Keeps m)
    (hholds : m.tree.Holds path i b') : (w.on m).Aims path i b' :=
  h.of_opened rfl rfl rfl (fun d _ => hkeeps.opened? d) hholds

/-- Opening the target leaves what its mode says. -/
theorem Aims.opening (h : w.Aims path i b) {tree : FileTree} (description : Description)
    (hholds : tree.Holds path i b') :
    (w.on (w.machine.opening tree description)).Aims path i b' :=
  h.of_opened rfl rfl rfl (fun _ hd => Machine.opened?_of_append rfl hd) hholds

theorem Aims.written (h : w.Aims path i b) (bytes : Bytes) :
    (w.on (w.machine.written w.self.descriptors Execution.stdout bytes)).Aims path i b :=
  h.of_keeps (Machine.keeps_written _ _ _ _) (Machine.holds_written h.holds h.unreported bytes)

/-- The log goes elsewhere. -/
theorem Aims.of_logs (h : (w.on m).Aims path i b) (hlogs : Logs m w v)
    (hfaults : v.faults = w.faults) : v.Aims path i b := by
  obtain ⟨records, hmachine⟩ := hlogs.machine
  have hkeeps : m.Keeps v.machine := by
    rw [hmachine]
    exact Machine.keeps_foldl_noted _ _ _ _
  refine h.of_opened hlogs.descriptors hfaults hlogs.log (fun d _ => hkeeps.opened? d) ?_
  rw [hmachine]
  exact Machine.holds_foldl_noted h.holds h.unlogged records

theorem Aims.noting (h : w.Aims path i b) (records : List Log.Record) :
    (w.noting records).Aims path i b := h.of_logs (logs_noting w records) rfl

end World

/-! ### Lines that run no command in a child -/

namespace Builtin

variable {w : World} {path : Bytes} {i : Inode} {b : Option Bytes}

theorem aims_cd (h : w.Aims path i b) (operand : Option Text) (shell : Shell) :
    (((cd operand).start shell).run w).2.Aims path i b := by
  have hmove := move_cd operand shell w
  generalize ((cd operand).start shell).run w = r at hmove
  cases hmove with
  | refused | lost => exact h.of_logs ⟨rfl, rfl, rfl, [], rfl⟩ rfl
  | arrived cwd directory env records => exact h.of_logs ⟨rfl, rfl, rfl, records, rfl⟩ rfl

theorem aims_replaceImage (h : w.Aims path i b) {v : ArgVector} {e : ShellError} {w' : World}
    (hrun : (Execution.replaceImage v).run w = (.error e, w')) : w'.Aims path i b := by
  have hreplacement := Execution.replacement_replaceImage v w
  rw [hrun] at hreplacement
  cases hreplacement with
  | unfit => exact h
  | failed hargs e hmade records calls hu =>
    subst hu
    exact h.of_logs ⟨rfl, rfl, rfl, records, rfl⟩ rfl

end Builtin

namespace Execution

variable {w w' : World} {path : Bytes} {i : Inode} {b : Option Bytes}

/-- A line that fails has no child. -/
theorem aims_runRedirect (h : w.Aims path i b) {v : ArgVector} {target : Text} {mode : RedirectMode}
    {e : ShellError} (hrun : (runRedirect v target mode).run w = (.error e, w')) :
    w'.Aims path i b := by
  unfold runRedirect at hrun
  cases hargs : argv v with
  | error cause =>
    rw [hargs] at hrun
    cases hrun
    exact h
  | ok args =>
    cases htarget : withoutNul target with
    | error cause =>
      rw [hargs, htarget] at hrun
      cases hrun
      exact h
    | ok target =>
      rw [hargs, htarget] at hrun
      dsimp only at hrun
      rw [run_bind] at hrun
      cases hrefusal : w.refusal .fork with
      | some cause =>
        rw [Proc.run_fork_refused hrefusal] at hrun
        cases hrun
        exact h.of_logs ⟨rfl, rfl, rfl, [], rfl⟩ rfl
      -- A fork that was granted is not followed by an error.
      | none =>
        rw [Proc.run_fork_granted hrefusal] at hrun
        cases hrun

end Execution

namespace Shell

variable {shell : Shell} {w : World} {command target : Text} {mode : RedirectMode} {path : Bytes}
  {i : Inode} {b : Option Bytes}

/-- What the shell does with a line that runs a command with a target. -/
abbrev redirected (shell : Shell) (w : World) (command : Text) (mode : RedirectMode)
    (target : Text) : (Except ShellError Flow × Shell) × World :=
  ((exec (redirecting command mode target)).start shell).run w

/-- The lines that run no command in a child: the command is empty or undefined, or a built-in one,
or the line fails. -/
def Passes (shell : Shell) (w : World) (command : Text) (mode : RedirectMode) (target : Text) :
    Prop :=
  ¬ArgVector.Usable w.self.environment.value? (Text.words command) ∨
    (∃ name, Builtin.IsName name ∧ LedBy shell w (redirecting command mode target) name) ∨
    ∃ e, (redirected shell w command mode target).1.1 = .error e

theorem aims_builtin (h : w.Aims path i b) {p : Plan} {name : Text}
    (hcommand : p.leading.command? = some name) (hname : Builtin.IsName name)
    (hreturns : Returns (((run p).start shell).run w).1.1) :
    (((run p).start shell).run w).2.Aims path i b := by
  rcases hname with rfl | rfl | rfl | rfl
  · rw [start_run_exit hcommand]
    exact h.noting _
  -- Of the built-in words only `help` writes, and it writes to the output of the shell.
  · rw [start_run_cd hcommand]
    have hcd := Builtin.aims_cd h (p.leading.arg? 1) shell
    generalize ((Builtin.cd (p.leading.arg? 1)).start shell).run w = r at hcd ⊢
    rcases r with ⟨⟨e | _, shell'⟩, w'⟩
    · exact hcd
    · exact hcd.noting _
  · rw [start_run_help hcommand, Proc.run_write]
    exact (h.written _).noting _
  · rw [start_run_exec hcommand] at hreturns ⊢
    split
    · exact h.noting _
    · rename_i hempty
      rw [if_neg hempty] at hreturns
      cases hrun : (Execution.replaceImage (p.leading.shifted 1)).run w with
      | mk r w' =>
        rw [hrun] at hreturns
        cases r with
        | ok image => exact absurd rfl (hreturns image)
        | error e => exact Builtin.aims_replaceImage h hrun

/-- **A line that runs no command leaves its target as it is.** -/
theorem aims_passes (hcommand : IsFree command) (htarget : IsPath target) (h : w.Aims path i b)
    (hpasses : Passes shell w command mode target)
    (hreturns : Returns (redirected shell w command mode target).1.1) :
    (redirected shell w command mode target).2.Aims path i b := by
  unfold Passes redirected at hpasses
  unfold redirected at hreturns ⊢
  rw [start_exec] at hreturns hpasses ⊢
  cases hplan : (planned shell w (redirecting command mode target)).outcome with
  | error e => exact h.noting _
  | ok plan =>
    cases plan with
    | none => exact h.noting _
    | some p =>
      rw [hplan] at hpasses hreturns
      dsimp only at hpasses hreturns ⊢
      rw [World.noting_noting] at hpasses hreturns ⊢
      let records := planRecords shell w (redirecting command mode target) ++ [planRecord p]
      have hnoted : (w.noting records).Aims path i b := h.noting records
      cases hleading : p.leading.command? with
      | none =>
        rw [start_run_none hleading]
        exact hnoted
      | some name =>
        by_cases hname : Builtin.IsName name
        · exact aims_builtin hnoted hleading hname hreturns
        -- The command is neither unusable nor built in, so that it is the line that failed.
        obtain ⟨e, he⟩ : ∃ e, (((run p).start shell).run (w.noting records)).1.1 = .error e := by
          rcases hpasses with hunusable | ⟨name', hname', q, hq, hleading'⟩ | herror
          · rw [planned_unusable hcommand htarget hunusable] at hplan
            cases hplan
          · obtain rfl : p = q := Option.some.inj (Except.ok.inj (hplan.symm.trans hq))
            obtain rfl := Option.some.inj (hleading.symm.trans hleading')
            exact absurd hname' hname
          · exact herror
        obtain ⟨v, rfl⟩ := planned_redirecting hcommand htarget hplan
        rw [start_run_other hleading hname] at he ⊢
        dsimp only [runPlan] at he ⊢
        cases hrun : (Execution.runRedirect v target mode).run
            ((w.noting records).noting [dispatchRecord name .notBuiltin]) with
        | mk r w' =>
          rw [hrun] at he
          cases r with
          | ok _ => cases he
          | error e => exact Execution.aims_runRedirect (hnoted.noting _) hrun

end Shell

/-! ### Lines that put something into their target -/

/-- A program has written bytes to its output. It has done nothing else to what a path leads to, nor
to where the descriptions lead that were open before. -/
structure Context.Outputs (path o : Bytes) (c after : Context) : Prop where
  walk : after.machine.tree.walk true root path = c.machine.tree.walk true root path
  node : ∀ i entry, c.machine.tree.walk true root path = .ok (.occupied i entry) →
    (after.machine.tree.node? i).map Node.kind =
      ((c.machine.written c.self.descriptors Execution.stdout o).tree.node? i).map Node.kind
  opened : ∀ d < c.machine.descriptions.length, after.machine.opened? d = c.machine.opened? d

/-- A program may write all of it at once. -/
theorem Context.outputs_write (path o : Bytes) (c : Context) :
    Outputs path o c ((Call.write Execution.stdout o).run c).2 := by
  rw [Call.run_write]
  exact ⟨FileTree.walk_congr (Machine.sameOutline_written _ _ _ _) _ _ _, fun _ _ _ => rfl,
    fun d _ => (Machine.keeps_written _ _ _ _).opened? d⟩

namespace World

/-- The world in which a guard has been made, as the shell waits in it. -/
def guarded (w : World) : World := (Signals.Guard.make.run w).2

/-- The program of a child is about to run, and will write these bytes to its output. -/
def ChildOutputs (w : World) (userland : Userland) (pid : Nat) (path o : Bytes) : Prop :=
  ∃ child image, w.child? pid = some child ∧ child.fate = .running image ∧
    Context.Outputs path o ⟨child.process, w.withReaders⟩
      ((userland image).run ⟨child.process, w.withReaders⟩).2

theorem alters_guarded (w : World) : Alters w w.guarded := by
  obtain ⟨records, hrun⟩ := Signals.run_installOrWarn .ignoring w
  refine ⟨w.installed .ignoring, records, .signalAction :: w.calls, ?_⟩
  show ((Signals.installOrWarn .ignoring).run w).2 = _
  rw [hrun]

end World

namespace Execution

open World

variable {w u x : World} {child : Child} {target : Text} {mode : RedirectMode} {v : ArgVector}
  {r : (Except ShellError Unit × List Nat) × World} {i : Inode} {b : Option Bytes} {o : Bytes}

/-- A guarded wait for a known child, from the guard on. -/
theorem logs_waits_guarded {pid : Nat} (h : x.guarded.child? pid = some child) :
    Logs (x.guarded.finish child).1.machine x.guarded ((waits [pid]).run x).2 := by
  have hwaits : ((waits [pid]).run x).2 = ((Signals.installOrWarn x.self.interrupts.recorded).run
      ((waitFor pid).run x.guarded).2).2 := rfl
  obtain ⟨after, hdrop⟩ := Signals.run_installOrWarn x.self.interrupts.recorded
    ((waitFor pid).run x.guarded).2
  rw [hwaits, hdrop]
  exact (logs_waitFor h).trans (Alters.logs ⟨_, _, _, rfl⟩)

theorem faults_waits (pids : List Nat) (w : World) : ((waits pids).run w).2.faults = w.faults := by
  unfold waits
  split
  · rfl
  · obtain ⟨before, after, hrun⟩ := Signals.run_guarded (pids.forM waitFor) w
    rw [hrun]
    exact (waited_forM pids _).faults

/-- The only new child. -/
theorem child?_joined (hfresh : w.PidsFresh) (hchildren : x.children = w.children ++ [child])
    (hpid : child.process.pid = w.nextPid) : x.child? w.nextPid = some child := by
  rw [child?_of_children hfresh hchildren (Nat.le_refl _)]
  simp [hpid]

/-- **The program of a child adds to what opening the target has left.** -/
theorem aims_ran (habsolute : Path.isAbsolute target.bytes = true) (hfresh : w.PidsFresh)
    (h : w.Aims target.bytes i b) (hlaunching : Launching w (.redirect v target mode) r)
    (houtputs : r.2.guarded.ChildOutputs w.userland w.nextPid target.bytes o) :
    r.1.1 = .ok () ∧
      ((waits r.1.2).run r.2).2.Aims target.bytes i (some (mode.opened b ++ o)) := by
  obtain ⟨child', image, hchild, hfate, houtputs⟩ := houtputs
  have hrunning : isRunning child' = true := by
    unfold isRunning
    rw [hfate]
  cases hlaunching with
  | unforked e hself hmachine hchildren =>
    have hnew := (alters_guarded _).children.trans (hchildren.trans (List.append_nil _).symm)
    rw [child?_of_children hfresh hnew (Nat.le_refl _)] at hchild
    cases hchild
  | @untargeted _ _ _ _ _ u hforks hended hopened records =>
    have hnew := (alters_guarded (u.noting records)).children.trans hforks.joins.children
    rw [child?_joined hfresh hnew hforks.joins.pid] at hchild
    cases hchild
    exact absurd hrunning (Bool.eq_false_iff.1 hended)
  | @targeted _ args hargs _ _ self tree channel hself hopen child u hforks records =>
    have hnew := (alters_guarded (u.noting records)).children.trans hforks.joins.children
    rw [child?_joined hfresh hnew hforks.joins.pid] at hchild
    obtain rfl := Option.some.inj hchild
    obtain ⟨hmachine, htable, -⟩ := hforks.running hrunning
    obtain ⟨rfl, hholds⟩ := Call.holds_openPath (c := ⟨self, w.machine⟩) habsolute h.holds hopen
    have hopening := h.opening ⟨.node i, 0, (openMode mode).append, false, true⟩ hholds
    -- The shell waits, and nothing but log records has been written since the target was opened.
    let y := (u.noting records).guarded
    have hy : Logs u.machine w y :=
      (hforks.logs.trans (logs_noting u records)).trans (alters_guarded _).logs
    have hfaults : y.faults = w.faults := (alters_guarded _).faults.trans hforks.faults
    rw [hmachine] at hy
    have haims : y.Aims target.bytes i (some (mode.opened b)) := hopening.of_logs hy hfaults
    obtain ⟨more, hmore⟩ := hy.machine
    have hdesc : y.machine.description? w.machine.descriptions.length =
        some ⟨.node i, 0, (openMode mode).append, false, true⟩ := by
      rw [hmore]
      refine (Machine.description?_foldl_noted (fun e he => ?_) _ _ _).trans
        List.getElem?_concat_length
      exact Nat.ne_of_lt (h.handles e he)
    have hstdout : Table.get? stdout child.process.descriptors =
        some ⟨w.machine.descriptions.length, false⟩ := by
      rw [htable]
      exact DescriptorTable.get?_atExec_put rfl _ _
    let c : Context := ⟨child.process, y.withReaders⟩
    obtain ⟨hwalk', hnode, hkept⟩ : Context.Outputs target.bytes o c ((w.userland image).run c).2 :=
      houtputs
    have hafter : ((w.userland image).run c).2.machine.tree.Holds target.bytes i
        (some (mode.opened b ++ o)) := by
      cases haims.holds with
      | @file _ entry content hwalk hkind =>
        refine .file (hwalk'.trans hwalk) ((hnode i entry hwalk).trans ?_)
        exact Machine.kind_written_opened (m := c.machine) hstdout hdesc hkind o
    have hran : (y.on ((w.userland image).run c).2.machine).Aims target.bytes i
        (some (mode.opened b ++ o)) := haims.of_opened rfl rfl rfl hkept hafter
    have hfinal := logs_waits_guarded (x := u.noting records)
      (child?_joined hfresh hnew hforks.joins.pid)
    rw [finish_running hfate, hy.userland] at hfinal
    exact ⟨rfl, hran.of_logs hfinal ((faults_waits _ _).trans (hforks.faults.trans hfaults.symm))⟩

/-- **A child that starts no program adds nothing.** -/
theorem aims_failed (habsolute : Path.isAbsolute target.bytes = true) (hfresh : w.PidsFresh)
    (h : w.Aims target.bytes i b) (hlaunching : Launching w (.redirect v target mode) r)
    (hopened : ∀ made e, ((waits r.1.2).run r.2).2.trace = made ++ w.trace →
      .opened target.bytes (.error e) ∉ made)
    (hfirst : w.FirstFails ((waits r.1.2).run r.2).2) :
    r.1.1 = .ok () ∧ ((waits r.1.2).run r.2).2.Aims target.bytes i (some (mode.opened b)) := by
  cases hlaunching with
  | unforked e hself hmachine hchildren hnext =>
    exact absurd hfirst.1 (Nat.not_lt.2 (Nat.le_of_eq hnext))
  -- The target did open, so that the child cannot have reported the contrary.
  | @untargeted _ args _ _ child u hforks hended hfound records =>
    obtain ⟨made, e, htrace, hmem⟩ := hfound
    obtain ⟨more, hmore, -⟩ := enters_waits [w.nextPid] (u.noting records)
    refine absurd (List.mem_append_right more hmem) (hopened (more ++ made) e ?_)
    rw [hmore, List.append_assoc, ← htrace]
    rfl
  | @targeted _ args hargs _ _ self tree channel hself hopen child u hforks records =>
    obtain ⟨rfl, hholds⟩ := Call.holds_openPath (c := ⟨self, w.machine⟩) habsolute h.holds hopen
    have hopening := h.opening ⟨.node i, 0, (openMode mode).append, false, true⟩ hholds
    have henters : u.Enters [] ((waits [w.nextPid]).run (u.noting records)).2 :=
      enters_waits [w.nextPid] (u.noting records)
    have hended := hfirst.ended hforks.joins.pid (hforks.joins.enters.trans henters)
    have hlogs := logs_waits_ended hfresh (hforks.logs.trans (logs_noting u records))
      hforks.joins.children hforks.joins.pid hended
    rw [hforks.reported hended h.grants] at hlogs
    -- The report goes to the output of the shell, which is not the target.
    have hreported : (w.on (w.reported (redirectDiagnostic args) (w.machine.opening tree
        ⟨.node i, 0, (openMode mode).append, false, true⟩))).Aims target.bytes i
          (some (mode.opened b)) := hopening.written _
    exact ⟨rfl, hreported.of_logs hlogs ((faults_waits _ _).trans hforks.faults)⟩

end Execution

namespace Shell

variable {shell : Shell} {w : World} {command target : Text} {mode : RedirectMode} {i : Inode}
  {b : Option Bytes} {o : Bytes}

/-- What the log is told of a line before its plan is launched. -/
def childRecords (shell : Shell) (w : World) (line : Text) (p : Plan) (name : Text) :
    List Log.Record :=
  planRecords shell w line ++ [planRecord p, dispatchRecord name .notBuiltin]

/-- The world in which the children of a plan have been launched. -/
def launched (shell : Shell) (w : World) (line : Text) (p : Plan) (name : Text) : World :=
  ((Execution.launch p).run (w.noting (childRecords shell w line p name))).2

/-- What a line that runs a command in a child puts into its target. -/
inductive Puts (shell : Shell) (w : World) (command : Text) (mode : RedirectMode) (target : Text) :
    Bytes → Prop
  /-- The program runs, and this is what it writes. -/
  | ran {p : Plan} {name : Text} {o : Bytes}
      (hplan : (planned shell w (redirecting command mode target)).outcome = .ok (some p))
      (hname : p.leading.command? = some name) (hother : ¬Builtin.IsName name)
      (houtputs : (launched shell w (redirecting command mode target) p name).guarded.ChildOutputs
        w.userland w.nextPid target.bytes o) : Puts shell w command mode target o
  /-- The child can open the target, but no program starts. -/
  | failed {p : Plan} {name : Text}
      (hplan : (planned shell w (redirecting command mode target)).outcome = .ok (some p))
      (hname : p.leading.command? = some name) (hother : ¬Builtin.IsName name)
      (hopened : ∀ made e, (redirected shell w command mode target).2.trace = made ++ w.trace →
        .opened target.bytes (.error e) ∉ made)
      (hfirst : w.FirstFails (redirected shell w command mode target).2) :
      Puts shell w command mode target []

/-- A line that runs a command in a child launches its plan and waits. -/
theorem redirected_of_planned {p : Plan} {name : Text}
    (hplan : (planned shell w (redirecting command mode target)).outcome = .ok (some p))
    (hname : p.leading.command? = some name) (hother : ¬Builtin.IsName name) :
    redirected shell w command mode target =
      let r := (Execution.launch p).run
        (w.noting (childRecords shell w (redirecting command mode target) p name))
      ((r.1.1.map fun _ => .proceed, shell), ((Execution.waits r.1.2).run r.2).2) := by
  unfold redirected
  rw [start_exec, hplan]
  dsimp only
  rw [start_run_other hname hother, World.noting_noting, World.noting_noting,
    Execution.run_runPlan]
  rfl

/-- **A line that runs a command** opens its target as the mode says, and puts behind what is left
there what it puts. -/
theorem aims_puts (hcommand : IsFree command) (htarget : IsPath target) (hfresh : w.PidsFresh)
    (h : w.Aims target.bytes i b) (hputs : Puts shell w command mode target o) :
    Returns (redirected shell w command mode target).1.1 ∧
      (redirected shell w command mode target).2.Aims target.bytes i (some (mode.opened b ++ o)) := by
  obtain ⟨output, hout⟩ := Option.isSome_iff_exists.1 h.output
  cases hputs with
  | @ran p name o hplan hname hother houtputs =>
    obtain ⟨v, rfl⟩ := planned_redirecting hcommand htarget hplan
    rw [redirected_of_planned hplan hname hother]
    let records := childRecords shell w (redirecting command mode target)
      (.redirect v target mode) name
    obtain ⟨hok, haims⟩ := Execution.aims_ran htarget.absolute (hfresh.noting records)
      (h.noting records) (Execution.launching_redirect (w := w.noting records) hout v target mode)
      houtputs
    dsimp only
    rw [hok]
    exact ⟨returns_proceed, haims⟩
  -- A child that fails to start has opened the target, and puts nothing into it.
  | @failed p name hplan hname hother hopened hfirst =>
    obtain ⟨v, rfl⟩ := planned_redirecting hcommand htarget hplan
    rw [redirected_of_planned hplan hname hother] at hopened hfirst ⊢
    let records := childRecords shell w (redirecting command mode target)
      (.redirect v target mode) name
    obtain ⟨hok, haims⟩ := Execution.aims_failed htarget.absolute (hfresh.noting records)
      (h.noting records) (Execution.launching_redirect (w := w.noting records) hout v target mode)
      hopened hfirst
    dsimp only
    rw [hok, List.append_nil]
    exact ⟨returns_proceed, haims⟩

/-! ### Sequences of lines -/

end Shell

namespace World

/-- The world with a program after the shell has opened its log there. -/
def logging : World :=
  let settings := { Configuration.standard (.standard none) [] with logFile := bytesOf "/t" }
  ((Session.openLog settings (.upTo .warn)).run speaking).2

end World

theorem Line.isPath_t : IsPath (Text.lit "/t") :=
  ⟨⟨by decide, by decide, by decide⟩, by decide, (Text.trims_iff _ _).2 (by decide)⟩

open Line (isPath_t)

namespace Shell

variable {shell : Shell} {w : World} {target : Text} {i : Inode} {b : Option Bytes}

/-- Lines to one target, one after the other: those that put something there, each with its mode and
what it puts, and those that run no command. -/
inductive Redirections (target : Text) (start : Shell) (first : World) :
    List (RedirectMode × Bytes) → Shell → World → Prop
  | start : Redirections target start first [] start first
  | puts {steps : List (RedirectMode × Bytes)} {shell : Shell} {w : World} {command : Text}
      {mode : RedirectMode} {o : Bytes} (h : Redirections target start first steps shell w)
      (hcommand : IsFree command) (hputs : Puts shell w command mode target o) :
      Redirections target start first (steps ++ [(mode, o)])
        (redirected shell w command mode target).1.2 (redirected shell w command mode target).2
  | passes {steps : List (RedirectMode × Bytes)} {shell : Shell} {w : World} {command : Text}
      {mode : RedirectMode} (h : Redirections target start first steps shell w)
      (hcommand : IsFree command) (hpasses : Passes shell w command mode target)
      (hreturns : Returns (redirected shell w command mode target).1.1) :
      Redirections target start first steps
        (redirected shell w command mode target).1.2 (redirected shell w command mode target).2

/-- What a file holds behind steps of its own. -/
def put (b : Option Bytes) (step : RedirectMode × Bytes) : Option Bytes :=
  some (step.1.opened b ++ step.2)

/-- Appending alone puts everything behind what was there. -/
theorem foldl_put_append {steps : List (RedirectMode × Bytes)} (h : ∀ s ∈ steps, s.1 = .append)
    (content : Bytes) :
    steps.foldl put (some content) = some (content ++ (steps.map Prod.snd).flatten) := by
  induction steps generalizing content with
  | nil => simp
  | cons step steps ih =>
    obtain ⟨mode, o⟩ := step
    obtain rfl : mode = .append := h (mode, o) List.mem_cons_self
    have hput : put (some content) (.append, o) = some (content ++ o) := rfl
    rw [List.foldl_cons, hput, ih (fun s hs => h s (List.mem_cons_of_mem _ hs))]
    simp

variable {start : Shell} {first : World} {steps : List (RedirectMode × Bytes)}

/-- **Every line keeps the aim.** -/
theorem aims_redirections (htarget : IsPath target) (hfresh : first.PidsFresh)
    (haims : first.Aims target.bytes i b) (h : Redirections target start first steps shell w) :
    w.PidsFresh ∧ w.Aims target.bytes i (steps.foldl put b) := by
  have hsettled : ∀ {shell : Shell} {w : World} {command : Text} {mode : RedirectMode},
      w.PidsFresh → Returns (redirected shell w command mode target).1.1 →
        (redirected shell w command mode target).2.PidsFresh := fun hfresh hreturns =>
    (settled_course hfresh hreturns (course_exec _ _ _)).pidsFresh hfresh
  induction h with
  | start => exact ⟨hfresh, haims⟩
  | puts h hcommand hputs ih =>
    obtain ⟨hreturns, haims⟩ := aims_puts hcommand htarget ih.1 ih.2 hputs
    rw [List.foldl_append]
    exact ⟨hsettled ih.1 hreturns, haims⟩
  | passes h hcommand hpasses hreturns ih =>
    exact ⟨hsettled ih.1 hreturns, aims_passes hcommand htarget ih.2 hpasses hreturns⟩

/-- **What a target holds behind any lines to it**: all that was put there from the last truncating
line on; without such a line what it held before, followed by all that was put there. Lines that run
no command count for nothing. -/
theorem redirections_hold (htarget : IsPath target) (hfresh : first.PidsFresh)
    (haims : first.Aims target.bytes i b) (h : Redirections target start first steps shell w) :
    ∃ content, w.machine.tree.Holds target.bytes i content ∧
      (∀ before o after, steps = before ++ (.truncate, o) :: after →
        (∀ s ∈ after, s.1 = .append) → content = some (o ++ (after.map Prod.snd).flatten)) ∧
      ((∀ s ∈ steps, s.1 = .append) → steps ≠ [] →
        content = some (b.getD [] ++ (steps.map Prod.snd).flatten)) ∧
      (steps = [] → content = b) := by
  refine ⟨steps.foldl put b, (aims_redirections htarget hfresh haims h).2.holds, ?_, ?_, ?_⟩
  -- The contents are a fold, of which the last truncating line is a fresh start.
  · rintro before o after rfl happend
    rw [List.foldl_append, List.foldl_cons]
    exact foldl_put_append happend o
  · intro happend hne
    cases steps with
    | nil => exact absurd rfl hne
    | cons step steps =>
      obtain ⟨mode, o⟩ := step
      obtain rfl : mode = .append := happend (mode, o) List.mem_cons_self
      have hput : put b (.append, o) = some (b.getD [] ++ o) := rfl
      rw [List.foldl_cons, hput, foldl_put_append fun s hs => happend s (List.mem_cons_of_mem _ hs)]
      simp
  · rintro rfl
    rfl

/-- A program that writes, and then a line without a command. -/
theorem redirections_hold_speaking :
    ∃ shell w content, Redirections (Text.lit "/t") ⟨[Path.slash], 2⟩ .speaking
        [(.truncate, bytesOf "!")] shell w ∧
      w.machine.tree.Holds (Text.lit "/t").bytes 2 content ∧ content = some (bytesOf "!") := by
  have hfresh : World.speaking.PidsFresh := World.pidsFresh_start _ _ _ _ _ _
  have hwalk : World.speaking.machine.tree.walk true root (Text.lit "/t").bytes =
      .ok (.vacant root (bytesOf "t")) := by rfl
  have haims : World.speaking.Aims (Text.lit "/t").bytes 2 none := by
    refine ⟨.absent hwalk, by decide +kernel, by decide +kernel, fun _ => rfl, ?_,
      fun sink h => nomatch h⟩
    rintro ⟨handle, hget, hchannel⟩
    cases hget
    cases hchannel
  -- The program that is running when the shell begins to wait.
  have hstarts : ((launched ⟨[Path.slash], 2⟩ .speaking
      (redirecting (Text.lit "/p") .truncate (Text.lit "/t"))
      (.redirect ⟨[some (Text.lit "/p")]⟩ (Text.lit "/t") .truncate)
      (Text.lit "/p")).guarded.child? World.speaking.nextPid).map Child.fate =
        some (.running ⟨Text.lit "p", [(Text.lit "/p").bytes]⟩) := by decide +kernel
  obtain ⟨child, hchild, hfate⟩ := Option.map_eq_some_iff.1 hstarts
  have hplan : (planned ⟨[Path.slash], 2⟩ .speaking
      (redirecting (Text.lit "/p") .truncate (Text.lit "/t"))).outcome =
        .ok (some (.redirect ⟨[some (Text.lit "/p")]⟩ (Text.lit "/t") .truncate)) := by rfl
  have hputs : Puts ⟨[Path.slash], 2⟩ .speaking (Text.lit "/p") .truncate (Text.lit "/t")
      (bytesOf "!") :=
    .ran hplan rfl (by decide) ⟨child, _, hchild, hfate, Context.outputs_write _ _ _⟩
  have hrun := Redirections.start.puts ⟨by decide, by decide, by decide⟩ hputs
  have hnothing : ∀ vars, ¬ArgVector.Usable vars (Text.words []) := by
    rintro vars ⟨name, hname, -⟩
    cases hname
  -- The line of a blank command is behind the one that has written.
  have hpasses : Passes (redirected ⟨[Path.slash], 2⟩ .speaking (Text.lit "/p") .truncate
      (Text.lit "/t")).1.2 (redirected ⟨[Path.slash], 2⟩ .speaking (Text.lit "/p") .truncate
        (Text.lit "/t")).2 [] .append (Text.lit "/t") := .inl (hnothing _)
  have hpassed := hrun.passes ⟨by decide, by decide, by decide⟩ hpasses (by
      unfold redirected
      rw [start_exec, planned_unusable ⟨by decide, by decide, by decide⟩ isPath_t (hnothing _)]
      exact returns_proceed)
  obtain ⟨content, hholds, hlast, -⟩ := redirections_hold isPath_t hfresh haims hpassed
  exact ⟨_, _, content, hpassed, hholds, hlast [] _ [] rfl (fun _ h => nomatch h)⟩

/-- A line that runs no command is logged, and the log may be its target. -/
theorem passes_logged :
    let r := redirected ⟨[Path.slash], 1⟩ .logging (Text.lit "exit x") .truncate (Text.lit "/t")
    IsFree (Text.lit "exit x") ∧ IsPath (Text.lit "/t") ∧
      Passes ⟨[Path.slash], 1⟩ .logging (Text.lit "exit x") .truncate (Text.lit "/t") ∧
      Returns r.1.1 ∧ World.logging.machine.tree.Holds (Text.lit "/t").bytes 2 (some []) ∧
      ¬r.2.machine.tree.Holds (Text.lit "/t").bytes 2 (some []) := by
  intro r
  have hanswer : r.1.1 = .ok .exit := by rfl
  -- The record of the line that ends the session is in the file.
  have hkind : (r.2.machine.tree.node? 2).map Node.kind ≠ some (.file []) := by decide +kernel
  have hwalk : World.logging.machine.tree.walk true root (Text.lit "/t").bytes =
      .ok (.occupied 2 (some (root, bytesOf "t"))) := by rfl
  have hplan : (planned ⟨[Path.slash], 1⟩ .logging
      (redirecting (Text.lit "exit x") .truncate (Text.lit "/t"))).outcome =
        .ok (some (.redirect ⟨[some (Text.lit "exit")]⟩ (Text.lit "/t") .truncate)) := by rfl
  refine ⟨⟨by decide, by decide, by decide⟩, isPath_t,
    .inr (.inl ⟨Text.lit "exit", .inl rfl, _, hplan, rfl⟩), ?_, ?_, ?_⟩
  · rw [hanswer]
    exact returns_exit
  · exact .file hwalk (by decide +kernel)
  · intro h
    cases h with
    | file _ h => exact hkind h

end Shell

end LineShell
