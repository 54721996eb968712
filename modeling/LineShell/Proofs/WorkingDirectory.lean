import LineShell.Proofs.SessionLines
import LineShell.Proofs.Staying
import LineShell.Proofs.Walks
/-!
# The working directory of a session

Only `cd` moves a shell. `Shell.Moved` is what a `cd` that succeeds leaves: the directory that the
machine tells from now on, remembered and published.

`Session.Reached` gathers the states of all sessions: whatever a session does leads from one of them
to another (`Session.reached_openShell`, `Session.leads_converse`). The headline is
`Session.cd_moves`: once a `cd` has succeeded, what is remembered and what is published are the same
ever after.
-/

namespace LineShell

variable {α β : Type}

/-! ### Telling the directory -/

namespace World

variable {u v w w' : World}

/-- The path that the machine tells when it is asked for the working directory. -/
def Tells (w : World) (cwd : Bytes) : Prop := (Call.workingDirectory.run w.toContext).1 = .ok cwd

theorem tells_iff {cwd : Bytes} :
    w.Tells cwd ↔ w.machine.tree.pathOf? w.self.directory = some cwd := by
  unfold Tells Call.workingDirectory
  rw [run_bind, run_get]
  dsimp only
  cases w.machine.tree.pathOf? w.self.directory with
  | none => exact iff_of_false (fun h => nomatch h) (fun h => nomatch h)
  | some path =>
    constructor
    · intro h
      cases h
      rfl
    · intro h
      cases h
      rfl

theorem Tells.noting {cwd : Bytes} (h : w.Tells cwd) (records : List Log.Record) :
    (w.noting records).Tells cwd := by
  rw [tells_iff] at h ⊢
  -- Log records change no path.
  exact (FileTree.pathOf?_congr (Machine.sameOutline_foldl_noted _ _ records _) _).trans h

end World

/-! ### Moving -/

/-- The variable that tells the working directory. -/
def Shell.pwd : Text := Text.lit "PWD"

/-- What a `cd` that succeeds leaves: the directory that the machine tells from now on is remembered
and published, and nothing else is different in the memory and the variables. -/
structure Shell.Moved (shell : Shell) (w : World) (shell' : Shell) (w' : World) : Prop where
  memory : shell' = { shell with cwd := shell'.cwd }
  tells : w'.Tells shell'.cwd
  published : Table.get? pwd w'.self.environment = some shell'.cwd
  others : ∀ name, name ≠ pwd →
    Table.get? name w'.self.environment = Table.get? name w.self.environment

namespace Builtin

variable {operand : Option Text} {shell shell' : Shell} {w w' : World}

/-- **A `cd` that succeeds publishes what it remembers.** -/
theorem moved_cd (h : ((cd operand).start shell).run w = ((.ok (), shell'), w')) :
    shell.Moved w shell' w' := by
  cases move_of_cd h with
  | arrived cwd directory env records calls hpath henv =>
    subst henv
    refine ⟨rfl, World.Tells.noting (World.tells_iff.2 hpath) records, ?_, fun name hname => ?_⟩
    · exact Table.get?_put_self _ _ _
    · exact Table.get?_put_of_ne hname _ _

/-- A `cd` that fails, at whatever point, leaves what is remembered and what is published. -/
theorem kept_cd {e : ShellError} (h : ((cd operand).start shell).run w = ((.error e, shell'), w')) :
    shell' = shell ∧ w'.self.environment = w.self.environment := by
  cases move_of_cd h <;> exact ⟨rfl, rfl⟩

end Builtin

/-! ### Lines -/

namespace Shell

open World

variable {shell : Shell} {w : World} {line : Text}

/-- A line that `cd` leads is a `cd`, with log records before and behind it. -/
theorem exists_cd_of_ledBy (h : LedBy shell w line (Text.lit "cd")) :
    ∃ operand before after, ((exec line).start shell).run w =
      match ((Builtin.cd operand).start shell).run (w.noting before) with
      | ((.error e, shell), w) => ((.error e, shell), w)
      | ((.ok _, shell), w) => ((.ok .proceed, shell), w.noting after) := by
  obtain ⟨p, hplan, hcommand⟩ := h
  refine ⟨p.leading.arg? 1, planRecords shell w line ++ [planRecord p],
    [dispatchRecord (Text.lit "cd") .handled], ?_⟩
  rw [start_exec]
  dsimp only
  rw [hplan]
  dsimp only
  rw [noting_noting]
  exact start_run_cd hcommand shell _

/-- **What a line that `cd` leads comes to**: it moves the shell, or leaves what is remembered and
what is published. -/
theorem moved_exec (h : LedBy shell w line (Text.lit "cd")) :
    let r := ((exec line).start shell).run w
    (∀ flow, r.1.1 = .ok flow → shell.Moved w r.1.2 r.2) ∧
      ∀ e, r.1.1 = .error e →
        r.1.2 = shell ∧ r.2.self.environment = w.self.environment := by
  obtain ⟨operand, before, after, hrun⟩ := exists_cd_of_ledBy h
  rw [hrun]
  rcases hcd : ((Builtin.cd operand).start shell).run (w.noting before) with
    ⟨⟨e | _, shell'⟩, w'⟩
  · obtain ⟨hshell, henv⟩ := Builtin.kept_cd hcd
    exact ⟨fun _ h => (nomatch h), fun _ _ => ⟨hshell, henv⟩⟩
  · have hmoved := Builtin.moved_cd hcd
    refine ⟨fun _ _ => ?_, fun _ h => nomatch h⟩
    exact ⟨hmoved.memory, hmoved.tells.noting after, hmoved.published, hmoved.others⟩

/-- A line moves the shell: `cd` leads it, and does not fail. -/
def Moves (shell : Shell) (w : World) (line : Text) : Prop :=
  shell.LedBy w line (Text.lit "cd") ∧ ∃ flow, (((exec line).start shell).run w).1.1 = .ok flow

/-- A line that does not move the shell leaves what is remembered and what is published. -/
theorem kept_exec (h : ¬shell.Moves w line) :
    let r := ((exec line).start shell).run w
    r.1.2 = shell ∧ r.2.self.environment = w.self.environment := by
  by_cases hled : shell.LedBy w line (Text.lit "cd")
  · cases hresult : (((exec line).start shell).run w).1.1 with
    | ok flow => exact absurd ⟨hled, flow, hresult⟩ h
    | error e => exact (moved_exec hled).2 e hresult
  · obtain ⟨hshell, hstays⟩ := stays_exec hled
    exact ⟨hshell, hstays.environment⟩

end Shell

/-! ### Sessions -/

namespace Session

open World Proc

variable {m : Nat} {moved : Prop} {shell : Shell} {start w w' : World}

/-- What a shell remembers, and the world around it, at any point of a session; and whether a `cd`
has succeeded by then. A session begins where the shell is built with its cap and advertised, and
goes on line by line; in between, anything may happen that leaves the process where it is. -/
inductive Reached (m : Nat) : Prop → Shell → World → Prop
  | built {start w : World} {shell : Shell} (h : (Shell.new m).run start = (.ok shell, w))
      (path : Bytes) : Reached m False shell ((Shell.publish path).run w).2
  | line {moved : Prop} {shell : Shell} {w : World} (h : Reached m moved shell w) (line : Text) :
      Reached m (moved ∨ shell.Moves w line) (((Shell.exec line).start shell).run w).1.2
        (((Shell.exec line).start shell).run w).2
  | meanwhile {moved : Prop} {shell : Shell} {w w' : World} (h : Reached m moved shell w)
      (hstays : Stays w w') : Reached m moved shell w'

theorem Reached.maxArgs (h : Reached m moved shell w) : shell.maxArgs = max m 1 := by
  induction h with
  | @built start w shell h path =>
    unfold Shell.new at h
    rw [run_bind] at h
    cases hask : (Proc.workingDirectory.run start).1 with
    | error e =>
      rw [hask] at h
      cases h
    | ok cwd =>
      rw [hask] at h
      cases h
      rfl
  | @line moved shell w h line ih =>
    by_cases hmoves : shell.Moves w line
    · obtain ⟨hled, flow, hok⟩ := hmoves
      rw [((Shell.moved_exec hled).1 flow hok).memory]
      exact ih
    · rw [(Shell.kept_exec hmoves).1]
      exact ih
  | meanwhile h hstays ih => exact ih

/-- Every line keeps what is published equal to what is remembered, and a `cd` that succeeds makes
it so. -/
theorem Reached.published (h : Reached m moved shell w) (hmoved : moved) :
    Table.get? Shell.pwd w.self.environment = some shell.cwd := by
  induction h with
  | built h path => exact hmoved.elim
  | @line moved shell w h line ih =>
    by_cases hmoves : shell.Moves w line
    · obtain ⟨hled, flow, hok⟩ := hmoves
      exact ((Shell.moved_exec hled).1 flow hok).published
    · obtain ⟨hshell, henv⟩ := Shell.kept_exec hmoves
      rw [hshell, henv]
      exact ih (hmoved.resolve_right hmoves)
  | meanwhile h hstays ih =>
    rw [hstays.environment]
    exact ih hmoved

/-- The computation leads from points of a session to points of a session. -/
def Leads (act : StateT Shell Proc α) : Prop :=
  ∀ (m : Nat) (moved : Prop) (shell : Shell) (w : World), Reached m moved shell w →
    ∃ moved', (moved → moved') ∧
      Reached m moved' ((act.run shell).run w).1.2 ((act.run shell).run w).2

theorem leads_pure (a : α) : Leads (pure a) := fun _ _ _ _ h => ⟨_, id, h⟩

theorem Leads.bind {x : StateT Shell Proc α} {f : α → StateT Shell Proc β} (hx : Leads x)
    (hf : ∀ a, Leads (f a)) : Leads (x >>= f) := by
  intro m moved shell w h
  obtain ⟨moved', hmoved, h'⟩ := hx _ _ _ _ h
  obtain ⟨moved'', hmoved', h''⟩ := hf _ _ _ _ _ h'
  exact ⟨moved'', hmoved' ∘ hmoved, h''⟩

theorem leads_lift {act : Proc α} (hact : IsStill act) : Leads (act : StateT Shell Proc α) :=
  fun _ _ _ _ h => ⟨_, id, h.meanwhile (hact _)⟩

theorem leads_exec (line : Text) : Leads (Shell.exec line).run :=
  fun _ _ _ _ h => ⟨_, .inl, h.line line⟩

theorem leads_runLine (introduction line : Text) : Leads (runLine introduction line) := by
  rw [runLine_eq]
  unfold execute
  refine (leads_exec line).bind fun r => ?_
  cases r with
  | ok flow => exact leads_pure _
  | error e => exact (leads_lift (isStill_write _ _)).bind fun _ => leads_pure _

theorem leads_runStartup (lines : List Text) : Leads (runStartup lines) := by
  induction lines with
  | nil => exact leads_pure _
  | cons line lines ih =>
    refine (leads_runLine _ line).bind fun flow => ?_
    cases flow with
    | proceed => exact ih
    | exit => exact leads_pure _
    | replaced image => exact leads_pure _

theorem leads_repl (limit : Nat) (source : Source) : Leads (repl limit source) := by
  induction limit generalizing source with
  | zero => exact leads_pure _
  | succ limit ih =>
    refine (leads_lift (Source.isStill_next source)).bind fun r => ?_
    rcases r with ⟨e | line, source⟩
    · exact (leads_lift (isStill_write _ _)).bind fun _ => leads_pure _
    cases line with
    | eof => exact leads_pure _
    | interrupted => exact (leads_lift (isStill_log _)).bind fun _ => ih source
    | text line =>
      refine (leads_runLine _ line).bind fun flow => ?_
      cases flow with
      | proceed => exact ih source
      | exit => exact leads_pure _
      | replaced image => exact leads_pure _

/-- **The startup lines and the lines of a source lead on**: all that a shell does between its
startup and its end is in a session. -/
theorem leads_converse (c : Configuration) (limit : Nat) (source : Source) :
    Leads (converse c limit source) := by
  refine (leads_runStartup c.startup).bind fun flow => ?_
  cases flow with
  | replaced image => exact leads_pure _
  | exit => exact leads_pure _
  | proceed =>
    refine (leads_repl limit source).bind fun r => ?_
    rcases r with ⟨flow, source⟩
    cases flow with
    | replaced image => exact leads_pure _
    | exit => exact (leads_lift (isStill_log _)).bind fun _ => leads_pure _
    | proceed => exact (leads_lift (isStill_log _)).bind fun _ => leads_pure _

/-- A shell that is set up is at the beginning of a session. -/
theorem reached_openShell (h : (openShell m).run start = (.ok shell, w)) :
    Reached m False shell w := by
  unfold openShell at h
  rw [run_bind] at h
  rcases hnew : (Shell.new m).run start with ⟨e | built, u⟩
  · rw [hnew] at h
    cases h
  rw [hnew] at h
  dsimp only at h
  rw [run_bind, run_bind] at h
  have hbuilt : Reached m False built ((Shell.publish programPath).run u).2 := .built hnew _
  have hstays := Signals.isStill_startup ((Shell.publish programPath).run u).2
  cases hstartup : (Signals.startup.run ((Shell.publish programPath).run u).2).1 with
  | error e =>
    rw [hstartup] at h
    cases h
  | ok _ =>
    rw [hstartup] at h
    cases h
    exact hbuilt.meanwhile hstays

/-- **Only `cd` moves a session, and what it remembers is what it publishes.** At every point of a
session the cap is the one that the shell was built with, or one; and once a `cd` has succeeded, the
published directory is the remembered one, whatever has failed since. A line that `cd` does not lead
leaves the memory, the working directory and the variables; a `cd` that succeeds remembers and
publishes the directory that the machine tells behind it, and changes no other variable. -/
theorem cd_moves (h : Reached m moved shell w) :
    shell.maxArgs = max m 1 ∧
    (moved → Table.get? Shell.pwd w.self.environment = some shell.cwd) ∧
    ∀ line,
      let r := ((Shell.exec line).start shell).run w
      (¬shell.LedBy w line (Text.lit "cd") → r.1.2 = shell ∧ Stays w r.2) ∧
      (shell.LedBy w line (Text.lit "cd") → ∀ flow, r.1.1 = .ok flow →
        shell.Moved w r.1.2 r.2) :=
  ⟨h.maxArgs, h.published, fun _ => ⟨Shell.stays_exec, fun hled => (Shell.moved_exec hled).1⟩⟩

/-- A `cd` that succeeds, and then one that does not. -/
theorem cd_moves_root :
    let built := (Shell.publish [Path.slash]).run ((Shell.new 2).run World.bare).2
    let r := ((Shell.exec (Text.lit "cd /")).start ⟨[Path.slash], 2⟩).run built.2
    let r' := ((Shell.exec (Text.lit "cd a")).start r.1.2).run r.2
    (∃ e, r'.1.1 = .error e) ∧ r'.1.2.maxArgs = 2 ∧
      Table.get? Shell.pwd r'.2.self.environment = some r'.1.2.cwd := by
  have hbuilt : Reached 2 False ⟨[Path.slash], 2⟩
      ((Shell.publish [Path.slash]).run ((Shell.new 2).run World.bare).2).2 :=
    .built (rfl : (Shell.new 2).run World.bare = _) [Path.slash]
  have hmoves : Shell.Moves ⟨[Path.slash], 2⟩
      ((Shell.publish [Path.slash]).run ((Shell.new 2).run World.bare).2).2 (Text.lit "cd /") :=
    ⟨⟨.simple ⟨[some (Text.lit "cd"), some ['/']]⟩, rfl, rfl⟩, .proceed, rfl⟩
  obtain ⟨hcap, hpublished, -⟩ :=
    cd_moves ((hbuilt.line (Text.lit "cd /")).line (Text.lit "cd a"))
  dsimp only
  exact ⟨⟨_, rfl⟩, hcap, hpublished (.inl (.inr hmoves))⟩

end Session

end LineShell
