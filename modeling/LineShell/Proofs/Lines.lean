import LineShell.Machine.Setup
import LineShell.Proofs.SignalSteps
/-!
# What one line comes to

A line is planned, and its plan is run by a built-in or in children. The equations here say for each
way a line can go what it answers, and where the world goes: `start_exec` for planning, and
`start_run_exit`, `start_run_cd`, `start_run_help`, `start_run_exec` and `start_run_other` for the
command in front.

`Shell.Course` gathers these ways, and `Shell.course_exec` says that every line goes one of them.
-/

namespace LineShell

/-! ### Planning -/

namespace Shell

/-- What a line is planned to in a world. -/
def planned (shell : Shell) (w : World) (line : Text) : Planned :=
  Plan.ofLine (Environment.value? w.self.environment) shell.maxArgs line

/-- What planning a line tells the log. -/
def planRecords (shell : Shell) (w : World) (line : Text) : List Log.Record :=
  (if Shape.dropsStage line then
    [⟨.debug, planSource, Text.lit "ignoring pipeline stages after the second", []⟩] else []) ++
  (planned shell w line).truncations.map truncationRecord

/-- What the log is told of a plan. -/
def planRecord (p : Plan) : Log.Record :=
  ⟨.debug, Text.lit "bosh::shell", Text.lit "planned", [Log.Record.field "plan" (planText p)]⟩

theorem run_plan (shell : Shell) (w : World) (line : Text) :
    (plan shell.maxArgs line).run w =
      ((planned shell w line).outcome, w.noting (planRecords shell w line)) := by
  unfold plan planRecords
  split
  · rw [run_bind, Proc.run_log, run_bind, run_bind, Proc.run_forM_log,
      ← World.noting_noting]
    rfl
  · rw [run_bind, run_bind, Proc.run_forM_log]
    rfl

/-- **Executing a line** is planning it, and running the plan if there is one. -/
theorem start_exec (line : Text) (shell : Shell) (w : World) :
    ((exec line).start shell).run w =
      let noted := w.noting (planRecords shell w line)
      match (planned shell w line).outcome with
      | .error e => ((.error e, shell), noted)
      | .ok none => ((.ok .proceed, shell), noted)
      | .ok (some p) => ((run p).start shell).run (noted.noting [planRecord p]) := by
  unfold exec
  rw [Attempt.start_bind, Attempt.start_get]
  dsimp only
  rw [Attempt.start_bind, Attempt.start_ofProc, run_plan]
  rcases (planned shell w line).outcome with e | _ | p
  · rfl
  · rfl
  · dsimp only
    rw [Attempt.start_bind, Attempt.start_lift, Proc.run_log]
    rfl

/-! ### Running a plan -/

/-- What the log is told of a command that was offered to the built-ins. -/
def dispatchRecord (command : Text) (outcome : Builtin.Outcome) : Log.Record :=
  ⟨.debug, Builtin.source, Text.lit "dispatch",
    [Log.Record.quoted "command" command, Log.Record.field "result" outcome.name]⟩

end Shell

namespace Builtin

/-- The names of the built-in commands. -/
def IsName (command : Text) : Prop :=
  command = Text.lit "exit" ∨ command = Text.lit "cd" ∨ command = Text.lit "help" ∨
    command = Text.lit "exec"

instance (command : Text) : Decidable (IsName command) := by
  unfold IsName
  infer_instance

/-- What offering a command comes to, once its built-in has run. -/
theorem start_dispatch {v : ArgVector} {command : Text} (h : v.command? = some command)
    (shell : Shell) (w : World) :
    ((dispatch v).start shell).run w =
      match ((run command v).start shell).run w with
      | ((.error e, shell), w) => ((.error e, shell), w)
      | ((.ok (.replaced image), shell), w) => ((.ok (.replaced image), shell), w)
      | ((.ok outcome, shell), w) =>
        ((.ok outcome, shell), w.noting [Shell.dispatchRecord command outcome]) := by
  unfold dispatch
  rw [h]
  dsimp only
  rw [Attempt.start_bind]
  rcases ((run command v).start shell).run w with ⟨⟨e | outcome, shell⟩, w⟩
  · rfl
  · cases outcome with
    | replaced image => rfl
    | notBuiltin | handled | exit =>
      dsimp only
      rw [Attempt.start_bind, Attempt.start_lift, Proc.run_log]
      rfl

/-! The built-in of each name. -/

theorem run_exit (v : ArgVector) : run (Text.lit "exit") v = pure .exit := by
  unfold run
  rw [if_pos rfl]

theorem run_cd (v : ArgVector) :
    run (Text.lit "cd") v = (do cd (v.arg? 1); return .handled) := by
  unfold run
  rw [if_neg (by decide), if_pos rfl]

theorem run_help (v : ArgVector) :
    run (Text.lit "help") v =
      (do (Proc.write Execution.stdout (help ++ ['\n']) : Proc Unit); return .handled) := by
  unfold run
  rw [if_neg (by decide), if_neg (by decide), if_pos rfl]

theorem run_exec (v : ArgVector) : run (Text.lit "exec") v = exec (v.shifted 1) := by
  unfold run
  rw [if_neg (by decide), if_neg (by decide), if_neg (by decide), if_pos rfl]

theorem run_of_not_isName {command : Text} (h : ¬IsName command) (v : ArgVector) :
    run command v = pure .notBuiltin := by
  simp only [IsName, not_or] at h
  obtain ⟨hexit, hcd, hhelp, hexec⟩ := h
  unfold run
  rw [if_neg hexit, if_neg hcd, if_neg hhelp, if_neg hexec]

theorem start_exec (v : ArgVector) (shell : Shell) (w : World) :
    ((exec v).start shell).run w =
      if v.isEmpty then ((.ok .handled, shell), w)
      else
        let r := (Execution.replaceImage v).run w
        ((r.1.map .replaced, shell), r.2) := by
  unfold exec
  split
  · rfl
  · rw [Attempt.start_bind, Attempt.start_ofProc]
    dsimp only
    cases ((Execution.replaceImage v).run w).1 <;> rfl

end Builtin

namespace Shell

variable {p : Plan} {command : Text}

theorem start_run (p : Plan) (shell : Shell) (w : World) :
    ((run p).start shell).run w =
      match ((Builtin.dispatch p.leading).start shell).run w with
      | ((.error e, shell), w) => ((.error e, shell), w)
      | ((.ok .exit, shell), w) => ((.ok .exit, shell), w)
      | ((.ok .handled, shell), w) => ((.ok .proceed, shell), w)
      | ((.ok (.replaced image), shell), w) => ((.ok (.replaced image), shell), w)
      | ((.ok .notBuiltin, shell), w) =>
        let r := (runPlan p).run w
        ((r.1.map fun _ => .proceed, shell), r.2) := by
  unfold run
  rw [Attempt.start_bind]
  rcases ((Builtin.dispatch p.leading).start shell).run w with ⟨⟨e | outcome, shell⟩, w⟩
  · rfl
  · cases outcome with
    | exit | handled | replaced image => rfl
    -- The plan is run only if its leading command is none of the built-in ones.
    | notBuiltin =>
      show ((Attempt.ofProc (runPlan p) >>= fun _ => pure .proceed : Attempt Flow).start
        shell).run w = _
      rw [Attempt.start_bind, Attempt.start_ofProc]
      dsimp only
      cases ((runPlan p).run w).1 <;> rfl

/-- A plan without a usable command comes to nothing. -/
theorem start_run_none (h : p.leading.command? = none) (shell : Shell) (w : World) :
    ((run p).start shell).run w = ((.ok .proceed, shell), w) := by
  rw [start_run]
  unfold Builtin.dispatch
  rw [h]
  rfl

theorem start_run_exit (h : p.leading.command? = some (Text.lit "exit")) (shell : Shell)
    (w : World) :
    ((run p).start shell).run w =
      ((.ok .exit, shell), w.noting [dispatchRecord (Text.lit "exit") .exit]) := by
  rw [start_run, Builtin.start_dispatch h, Builtin.run_exit]
  rfl

theorem start_run_cd (h : p.leading.command? = some (Text.lit "cd")) (shell : Shell) (w : World) :
    ((run p).start shell).run w =
      match ((Builtin.cd (p.leading.arg? 1)).start shell).run w with
      | ((.error e, shell), w) => ((.error e, shell), w)
      | ((.ok _, shell), w) =>
        ((.ok .proceed, shell), w.noting [dispatchRecord (Text.lit "cd") .handled]) := by
  rw [start_run, Builtin.start_dispatch h, Builtin.run_cd, Attempt.start_bind]
  rcases ((Builtin.cd (p.leading.arg? 1)).start shell).run w with ⟨⟨_ | _, _⟩, _⟩ <;> rfl

theorem start_run_help (h : p.leading.command? = some (Text.lit "help")) (shell : Shell)
    (w : World) :
    ((run p).start shell).run w =
      ((.ok .proceed, shell), ((Proc.write Execution.stdout (Builtin.help ++ ['\n'])).run w).2.noting
        [dispatchRecord (Text.lit "help") .handled]) := by
  rw [start_run, Builtin.start_dispatch h, Builtin.run_help, Attempt.start_bind, Attempt.start_lift]
  rfl

theorem start_run_exec (h : p.leading.command? = some (Text.lit "exec")) (shell : Shell)
    (w : World) :
    ((run p).start shell).run w =
      if (p.leading.shifted 1).isEmpty then
        ((.ok .proceed, shell), w.noting [dispatchRecord (Text.lit "exec") .handled])
      else
        let r := (Execution.replaceImage (p.leading.shifted 1)).run w
        ((r.1.map .replaced, shell), r.2) := by
  rw [start_run, Builtin.start_dispatch h, Builtin.run_exec, Builtin.start_exec]
  by_cases hempty : (p.leading.shifted 1).isEmpty = true
  · rw [if_pos hempty, if_pos hempty]
  · rw [if_neg hempty, if_neg hempty]
    dsimp only
    cases ((Execution.replaceImage (p.leading.shifted 1)).run w).1 <;> rfl

/-- A command that is no built-in runs in children. -/
theorem start_run_other (h : p.leading.command? = some command) (hname : ¬Builtin.IsName command)
    (shell : Shell) (w : World) :
    ((run p).start shell).run w =
      let r := (runPlan p).run (w.noting [dispatchRecord command .notBuiltin])
      ((r.1.map fun _ => .proceed, shell), r.2) := by
  rw [start_run, Builtin.start_dispatch h, Builtin.run_of_not_isName hname]
  rfl

/-! ### The ways a line can go -/

/-- The line has returned to the shell, which has become no other program. -/
def Returns (r : Except ShellError Flow) : Prop := ∀ image, r ≠ .ok (.replaced image)

theorem returns_proceed : Returns (.ok .proceed) := fun _ h => nomatch h

theorem returns_exit : Returns (.ok .exit) := fun _ h => nomatch h

theorem returns_error (e : ShellError) : Returns (.error e) := fun _ h => nomatch h

/-- The line has a plan with this command in front. -/
def LedBy (shell : Shell) (w : World) (line command : Text) : Prop :=
  ∃ p, (planned shell w line).outcome = .ok (some p) ∧ p.leading.command? = some command

/-- The ways a line can go, with what it answers and the world it leaves. -/
inductive Course (shell : Shell) (w : World) (line : Text) :
    (Except ShellError Flow × Shell) × World → Prop
  /-- There is no plan. -/
  | refused {e : ShellError} (h : (planned shell w line).outcome = .error e)
      (records : List Log.Record) : Course shell w line ((.error e, shell), w.noting records)
  /-- There is nothing to do, or to leave. -/
  | settled (flow : Flow) (h : Returns (.ok flow)) (records : List Log.Record) :
      Course shell w line ((.ok flow, shell), w.noting records)
  /-- The shell moves, which `cd` alone asks for; only a move that succeeds is logged. -/
  | moved (operand : Option Text) (records after : List Log.Record) {r : Except ShellError Unit}
      {shell' : Shell} {w' : World}
      (h : ((Builtin.cd operand).start shell).run (w.noting records) = ((r, shell'), w'))
      (hafter : ∀ e, r = .error e → after = []) (hled : LedBy shell w line (Text.lit "cd")) :
      Course shell w line ((r.map fun _ => .proceed, shell'), w'.noting after)
  /-- The shell shows its help. -/
  | helped (records after : List Log.Record) :
      Course shell w line ((.ok .proceed, shell),
        ((Proc.write Execution.stdout (Builtin.help ++ ['\n'])).run
          (w.noting records)).2.noting after)
  /-- The shell tries to become a program. -/
  | became (v : ArgVector) (records : List Log.Record) {r : Except ShellError Image} {w' : World}
      (h : (Execution.replaceImage v).run (w.noting records) = (r, w')) :
      Course shell w line ((r.map .replaced, shell), w')
  /-- The plan is run in children. -/
  | ran {p : Plan} (hp : (planned shell w line).outcome = .ok (some p))
      (records : List Log.Record) {r : Except ShellError Unit} {w' : World}
      (h : (runPlan p).run (w.noting records) = (r, w')) :
      Course shell w line ((r.map fun _ => .proceed, shell), w')

theorem course_run {shell : Shell} {w : World} {line : Text}
    (hp : (planned shell w line).outcome = .ok (some p)) (records : List Log.Record) :
    Course shell w line (((run p).start shell).run (w.noting records)) := by
  cases hcommand : p.leading.command? with
  | none =>
    rw [start_run_none hcommand]
    exact .settled .proceed returns_proceed records
  | some command =>
    by_cases hname : Builtin.IsName command
    -- One course for each built-in name, and one for all the others.
    · rcases hname with rfl | rfl | rfl | rfl
      · rw [start_run_exit hcommand, World.noting_noting]
        exact .settled .exit returns_exit _
      · rw [start_run_cd hcommand]
        rcases hcd : ((Builtin.cd (p.leading.arg? 1)).start shell).run (w.noting records) with
          ⟨⟨e | _, shell'⟩, w'⟩
        · exact .moved _ records [] hcd (fun _ _ => rfl) ⟨p, hp, hcommand⟩
        · exact .moved _ records _ hcd (fun _ h => by cases h) ⟨p, hp, hcommand⟩
      · rw [start_run_help hcommand]
        exact .helped records _
      · rw [start_run_exec hcommand]
        split
        · rw [World.noting_noting]
          exact .settled .proceed returns_proceed _
        · exact .became _ records rfl
    · rw [start_run_other hcommand hname, World.noting_noting]
      exact .ran hp _ rfl

/-- **Every line goes one of the ways.** -/
theorem course_exec (line : Text) (shell : Shell) (w : World) :
    Course shell w line (((exec line).start shell).run w) := by
  rw [start_exec]
  dsimp only
  cases hplan : (planned shell w line).outcome with
  | error e => exact .refused hplan _
  | ok plan =>
    cases plan with
    | none => exact .settled .proceed returns_proceed _
    | some p =>
      dsimp only
      rw [World.noting_noting]
      exact course_run hplan _

end Shell

/-! ### Small worlds -/

namespace World

/-- A world with nothing but a root directory, and programs that do nothing. -/
def bare : World :=
  start .empty FileTree.root [] (.standard none) (fun _ => pure (.exited 0)) .nothing

/-- A world with a program in it that writes one character. -/
def speaking : World :=
  start ⟨[⟨.directory [(bytesOf "p", 1)] FileTree.root true, .own 0o755⟩,
      ⟨.program (Text.lit "p"), .own 0o755⟩]⟩ FileTree.root [] (.standard none)
    (fun _ => do
      let _ ← Call.write Execution.stdout (bytesOf "!")
      return .exited 0) .nothing

/-- The first world with an input. -/
def scripted (input : Bytes) : World :=
  start .empty FileTree.root [] (.standard none) (fun _ => pure (.exited 0)) (.bytes input)

/-- The first world, where only one process can be made. -/
def crowded : World :=
  { bare with faults := fun kind n => if kind = .fork ∧ n = 1 then some .tryAgain else none }

end World

end LineShell
