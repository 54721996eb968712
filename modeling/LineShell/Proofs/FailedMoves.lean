import LineShell.Proofs.WorkingDirectory
/-!
# What a move that fails leaves

A `cd` enters a directory first and then asks for its path. Where the first step fails nothing has
happened; where only the second one does, the process stays in the directory that it has entered,
although nothing is remembered or published of it.

`World.entered?` is the directory that an operand leads to. The headline is `Builtin.cd_failed`: a
`cd` that fails keeps all but the directory, and it keeps the directory exactly if it could not
enter another one. `Builtin.cd_strays` is a process that is led astray in this way.
-/

namespace LineShell

/-- The directory that the operand of a `cd` leads to, if it can be entered. -/
def World.entered? (w : World) (operand : Text) : Option Inode :=
  (w.machine.tree.enterDirectory w.self.directory
    (Builtin.expandTilde (w.directories.home w.self.environment) operand).bytes).toOption

namespace Builtin

variable {operand : Option Text} {shell shell' : Shell} {w w' : World}

/-- A process that has moved is where the operand leads. -/
theorem entered_of_moveTo {text : Text} (h : (moveTo text).run w = (.ok (), w')) :
    w.entered? text = some w'.self.directory := by
  unfold moveTo at h
  rw [run_bind, Proc.run_directories, run_bind, Proc.run_self] at h
  dsimp only at h
  split at h
  · cases h
  · unfold Proc.changeDirectory at h
    rw [run_bind] at h
    cases hrefusal : w.refusal .changeDirectory with
    | some e =>
      rw [Proc.run_attempt_refused hrefusal] at h
      cases h
    | none =>
      rw [Proc.run_attempt_granted hrefusal, Proc.run_call] at h
      unfold Call.changeDirectory at h
      rw [run_bind, run_get] at h
      dsimp only at h
      unfold World.entered?
      -- The granted call looks the operand up in the world as it was.
      rw [show (w.counting .changeDirectory).toContext = w.toContext from rfl] at h
      cases henter : w.machine.tree.enterDirectory w.self.directory
          (expandTilde (w.directories.home w.self.environment) text).bytes with
      | error e =>
        rw [henter] at h
        cases h
      | ok directory =>
        rw [henter] at h
        cases h
        rfl

/-- A process whose directory cannot be told has moved. -/
theorem entered_of_cd {cause : Errno}
    (h : ((cd operand).start shell).run w = ((.error (.workingDir cause), shell'), w')) :
    ∃ text, operand = some text ∧ w.entered? text = some w'.self.directory := by
  cases operand with
  | none => cases h
  | some text =>
    unfold cd at h
    dsimp only at h
    rw [Attempt.start_bind, Attempt.start_ofProc] at h
    rcases hmove : (moveTo text).run w with ⟨e | _, u⟩
    · rw [hmove] at h
      cases h
      -- a move that does not come about is reported otherwise
      rcases moveTo_cases text w with ⟨cause', calls, h'⟩ | ⟨directory, calls, h'⟩
      · rw [h'] at hmove
        cases hmove
      · rw [h'] at hmove
        cases hmove
    · rw [hmove] at h
      dsimp only at h
      unfold Shell.syncCwd at h
      rw [Attempt.start_bind, Attempt.start_lift] at h
      obtain ⟨r, hask, -⟩ := run_workingDirectory u
      rw [hask] at h
      cases r with
      | ok cwd => cases h
      | error e =>
        cases h
        have hentered : w.entered? text = some u.self.directory := entered_of_moveTo hmove
        -- the question for the path is counted, and leaves the process where it is
        exact ⟨text, rfl, hentered⟩

/-- **What a `cd` that fails leaves**: the memory of the shell and the world, but for the calls that
are counted, and for the directory, which is kept unless the process has entered another one whose
path cannot be told. -/
theorem cd_failed {e : ShellError}
    (h : ((cd operand).start shell).run w = ((.error e, shell'), w')) :
    shell' = shell ∧
    w' = { w with
      self := { w.self with directory := w'.self.directory }
      calls := w'.calls } ∧
    (w'.self.directory = w.self.directory ↔
      ∀ text cause, operand = some text → e = .workingDir cause →
        w.entered? text = some w.self.directory) := by
  cases move_of_cd h with
  | refused he calls =>
    refine ⟨rfl, rfl, iff_of_true rfl ?_⟩
    rintro text cause - rfl
    rcases he with he | ⟨_, _, he⟩ <;> cases he
  | lost cause directory calls =>
    -- The process has entered where the operand leads, which may be where it was.
    obtain ⟨text, rfl, hentered⟩ := entered_of_cd h
    refine ⟨rfl, rfl, ?_⟩
    constructor
    · rintro hkept _ _ ⟨⟩ -
      rw [hentered, hkept]
    · intro hsame
      rw [hsame text cause rfl rfl] at hentered
      exact (Option.some.inj hentered).symm

end Builtin

/-! ### A process that is led astray -/

/-- A directory in a directory, both of which have been removed, under the numbers 1 and 2. -/
def FileTree.uprooted : FileTree :=
  ⟨[.emptyDirectory 0o755 root, ⟨.directory [] root false, .own 0o755⟩,
    ⟨.directory [] 1 false, .own 0o755⟩]⟩

/-- They are what is left of `/d` and `/d/e`. -/
example :
    let t : FileTree := ⟨[⟨.directory [(bytesOf "d", 1)] FileTree.root true, .own 0o755⟩,
      ⟨.directory [(bytesOf "e", 2)] FileTree.root true, .own 0o755⟩, .emptyDirectory 0o755 1]⟩
    (t.removeDirectory 2 (bytesOf "/d/e")).bind (·.removeDirectory 2 (bytesOf "/d")) =
      .ok .uprooted := rfl

/-- The world of a process that stands in the inner one of the two. -/
def World.stranded : World :=
  start .uprooted 2 [(Shell.pwd, bytesOf "/d/e")] (.standard none) (fun _ => pure (.exited 0))
    .nothing

namespace Builtin

/-- A `cd` to where the process stands fails and keeps its directory. -/
theorem cd_failed_stranded :
    let r := ((cd (some ['.'])).start ⟨bytesOf "/d/e", 1⟩).run World.stranded
    r.1 = (.error (.workingDir .noEntry), ⟨bytesOf "/d/e", 1⟩) ∧
      r.2.self.directory = World.stranded.self.directory := by
  have hrun : ((cd (some ['.'])).start ⟨bytesOf "/d/e", 1⟩).run World.stranded =
      ((.error (.workingDir .noEntry), ⟨bytesOf "/d/e", 1⟩), _) := Prod.ext rfl rfl
  have hentered : World.stranded.entered? ['.'] = some World.stranded.self.directory := rfl
  refine ⟨rfl, (cd_failed hrun).2.2.2 ?_⟩
  rintro _ _ ⟨⟩ -
  exact hentered

/-- A `cd` to the directory above fails as well, but the process is there; so the same `cd` made
again leads it out. -/
theorem cd_strays :
    let r := ((cd (some ['.', '.'])).start ⟨bytesOf "/d/e", 1⟩).run World.stranded
    r.1 = (.error (.workingDir .noEntry), ⟨bytesOf "/d/e", 1⟩) ∧
      Table.get? Shell.pwd r.2.self.environment = some (bytesOf "/d/e") ∧
      r.2.self.directory ≠ World.stranded.self.directory ∧
      (((cd (some ['.', '.'])).start r.1.2).run r.2).1 = (.ok (), ⟨bytesOf "/", 1⟩) := by
  exact ⟨rfl, rfl, by decide +kernel, rfl⟩

end Builtin

end LineShell
