import LineShell.Proofs.Children
/-!
# What the shell does in its own process

Four things the shell does by itself may fail half-way: it makes a pipe, it runs two stages over
one, it moves, and it becomes a program. Each has the list of its outcomes here.

* `Call.pipe_cases`: a pipe is two new numbers, or nothing has happened.
* `Execution.staging_runStages`: two stages have no child, one, or two, and both ends of the pipe are
  closed before any wait.
* `Builtin.move_cd`: a move that fails changes nothing but the directory itself, and that only when
  its path cannot be told.
* `Execution.replacement_replaceImage`: a failed start of a program leaves other interrupts, and no
  more.
-/

namespace LineShell

/-! ### Pipes -/

/-- The machine with one pipe more. -/
def Machine.withPipe (m : Machine) : Machine :=
  { m with
    pipes := m.pipes ++ [⟨.finite [], true⟩]
    descriptions := m.descriptions ++ [⟨.pipeRead m.pipes.length, 0, false, true, false⟩] ++
      [⟨.pipeWrite m.pipes.length, 0, false, false, true⟩] }

namespace DescriptorTable

/-- The table with both ends of a pipe open, the descriptions of which begin at a number. -/
def withEnds (readEnd writeEnd description : Nat) (t : DescriptorTable) : DescriptorTable :=
  Table.put writeEnd ⟨description + 1, false⟩ (Table.put readEnd ⟨description, false⟩ t)

/-- Two numbers that can be given to the ends of a pipe. -/
def FreeFor (readEnd writeEnd : Nat) (t : DescriptorTable) : Prop :=
  Table.get? readEnd t = none ∧ Table.get? writeEnd t = none ∧ readEnd ≠ writeEnd

/-- **Closing both ends gives the table back.** -/
theorem remove_withEnds {readEnd writeEnd : Nat} {t : DescriptorTable}
    (h : FreeFor readEnd writeEnd t) (description : Nat) :
    Table.remove writeEnd (Table.remove readEnd (withEnds readEnd writeEnd description t)) = t := by
  obtain ⟨hread, hwrite, hne⟩ := h
  unfold withEnds
  rw [Table.remove_put_of_ne hne, Table.remove_put hread, Table.remove_put hwrite]

end DescriptorTable

namespace Call

/-- A number that is given out was free, and otherwise nothing has happened. -/
theorem allocate_cases (description : Nat) (closeOnExec : Bool) (c : Context) :
    (∃ e, (allocate description closeOnExec).run c = (.error e, c)) ∨
    ∃ fd, Table.get? fd c.self.descriptors = none ∧
      (allocate description closeOnExec).run c = (.ok fd, { c with
        self := { c.self with
          descriptors := Table.put fd ⟨description, closeOnExec⟩ c.self.descriptors } }) := by
  unfold allocate
  rw [run_bind, run_get]
  dsimp only
  split
  · exact .inr ⟨_, DescriptorTable.get?_lowestFree _, rfl⟩
  · exact .inl ⟨_, rfl⟩

/-- The context with a pipe behind two numbers. -/
def withPipe (readEnd writeEnd : Nat) (c : Context) : Context :=
  { self := { c.self with
      descriptors := c.self.descriptors.withEnds readEnd writeEnd c.machine.descriptions.length }
    machine := c.machine.withPipe }

theorem run_pipe (c : Context) :
    pipe.run c =
      let made : Context := { c with machine := c.machine.withPipe }
      match (allocate c.machine.descriptions.length false).run made with
      | (.error e, _) => (.error e, c)
      | (.ok readEnd, halfway) =>
        match (allocate (c.machine.descriptions.length + 1) false).run halfway with
        | (.error e, _) => (.error e, c)
        | (.ok writeEnd, done) => (.ok (readEnd, writeEnd), done) := by
  have hlength : (c.machine.descriptions ++
      [(⟨.pipeRead c.machine.pipes.length, 0, false, true, false⟩ : Description)]).length =
      c.machine.descriptions.length + 1 := List.length_append
  unfold pipe
  rw [run_bind, run_get]
  dsimp only [Machine.addDescription]
  rw [run_bind, run_set, run_bind, hlength]
  unfold Machine.withPipe
  -- Without a number for either end the pipe that was made is given up again.
  generalize (allocate c.machine.descriptions.length false).run _ = r
  rcases r with ⟨e | readEnd, halfway⟩
  · rfl
  · dsimp only
    rw [run_bind]
    rcases (allocate (c.machine.descriptions.length + 1) false).run halfway with
      ⟨e | writeEnd, done⟩ <;> rfl

/-- A pipe is two numbers that were free, or nothing has happened. -/
theorem pipe_cases (c : Context) :
    (∃ e, pipe.run c = (.error e, c)) ∨
    ∃ readEnd writeEnd, DescriptorTable.FreeFor readEnd writeEnd c.self.descriptors ∧
      pipe.run c = (.ok (readEnd, writeEnd), withPipe readEnd writeEnd c) := by
  rw [run_pipe]
  dsimp only
  rcases allocate_cases c.machine.descriptions.length false
    { c with machine := c.machine.withPipe } with ⟨e, h⟩ | ⟨readEnd, hread, h⟩
  · rw [h]
    exact .inl ⟨e, rfl⟩
  rw [h]
  dsimp only
  rcases allocate_cases (c.machine.descriptions.length + 1) false
    { self := { c.self with
        descriptors := Table.put readEnd ⟨c.machine.descriptions.length, false⟩ c.self.descriptors }
      machine := c.machine.withPipe } with ⟨e, h'⟩ | ⟨writeEnd, hwrite, h'⟩
  · rw [h']
    exact .inl ⟨e, rfl⟩
  rw [h']
  -- The read end has been taken when the other one is looked for.
  have hne : writeEnd ≠ readEnd := by
    rintro rfl
    rw [Table.get?_put_self] at hwrite
    exact absurd hwrite (by simp)
  rw [Table.get?_put_of_ne hne] at hwrite
  exact .inr ⟨readEnd, writeEnd, ⟨hread, hwrite, hne.symm⟩, rfl⟩

end Call

/-- The world after a pipe that was made. -/
def World.withPipe (readEnd writeEnd : Nat) (w : World) : World :=
  { w.counting .pipe with
    toContext := Call.withPipe readEnd writeEnd w.toContext
    trace := .piped (.ok (readEnd, writeEnd)) :: w.trace }

theorem Proc.pipe_cases (w : World) :
    (∃ e, Proc.pipe.run w =
      (.error e, { w.counting .pipe with trace := .piped (.error e) :: w.trace })) ∨
    ∃ readEnd writeEnd, DescriptorTable.FreeFor readEnd writeEnd w.self.descriptors ∧
      Proc.pipe.run w = (.ok (readEnd, writeEnd), w.withPipe readEnd writeEnd) := by
  unfold Proc.pipe
  rw [run_bind]
  cases h : w.refusal .pipe with
  | some e =>
    rw [run_attempt_refused h]
    exact .inl ⟨e, rfl⟩
  | none =>
    rw [run_attempt_granted h, run_call]
    rcases Call.pipe_cases w.toContext with ⟨e, hpipe⟩ | ⟨readEnd, writeEnd, hfree, hpipe⟩
    · rw [show (w.counting .pipe).toContext = w.toContext from rfl, hpipe]
      exact .inl ⟨e, rfl⟩
    · rw [show (w.counting .pipe).toContext = w.toContext from rfl, hpipe]
      exact .inr ⟨readEnd, writeEnd, hfree, rfl⟩

/-- The world with two numbers closed. -/
def World.closing (readEnd writeEnd : Nat) (w : World) : World :=
  { w with self := { w.self with
    descriptors := Table.remove writeEnd (Table.remove readEnd w.self.descriptors) } }

theorem Execution.run_closeEnds (readEnd writeEnd : Nat) (w : World) :
    (Execution.closeEnds readEnd writeEnd).run w = ((), w.closing readEnd writeEnd) := rfl

/-- Closing both ends leaves the process that made the pipe as it was before. -/
theorem World.self_closing {w v : World} {readEnd writeEnd : Nat}
    (hfree : DescriptorTable.FreeFor readEnd writeEnd w.self.descriptors)
    (h : v.self = (w.withPipe readEnd writeEnd).self) :
    (v.closing readEnd writeEnd).self = w.self := by
  unfold closing
  rw [h]
  have hclosed := DescriptorTable.remove_withEnds hfree w.machine.descriptions.length
  show ({ w.self with descriptors := Table.remove writeEnd (Table.remove readEnd
    (w.self.descriptors.withEnds readEnd writeEnd w.machine.descriptions.length)) } : Process) = _
  rw [hclosed]

/-! ### Two stages over a pipe -/

namespace Execution

variable {writer reader : List Text} {readEnd writeEnd : Nat} {v : World}

/-- What two stages come to, from the world in which their pipe has been made. -/
inductive Staging (writer reader : List Text) (readEnd writeEnd : Nat) (v : World) :
    Except ShellError Unit × World → Prop
  /-- There is no child. -/
  | unforked {e : Errno} (h : v.refusal .fork = some e) :
      Staging writer reader readEnd writeEnd v
        (.error (.fork e), (v.counting .fork).closing readEnd writeEnd)
  /-- There is only the child that writes, and it is waited for. -/
  | half {e : Errno} {u : World}
      (hrun : (Proc.fork (writerChild writer readEnd writeEnd)).run v = (.ok v.nextPid, u))
      (hfork : v.Forked writer u) (h : u.refusal .fork = some e) :
      Staging writer reader readEnd writeEnd v (.error (.fork e),
        ((Signals.guarded (waitFor v.nextPid)).run
          ((u.counting .fork).closing readEnd writeEnd)).2)
  /-- There are both children, and they are waited for in order. -/
  | whole {u x : World} (hfork : v.Forked writer u) (hfork' : u.Forked reader x)
      (records : List Log.Record) :
      Staging writer reader readEnd writeEnd v (.ok (),
        ((Signals.guarded do waitFor v.nextPid; waitFor u.nextPid).run
          ((x.closing readEnd writeEnd).noting records)).2)

/-- **Two stages have one of these outcomes.** Before any wait both ends of the pipe are closed. -/
theorem staging_runStages (writer reader : List Text) (readEnd writeEnd : Nat) (v : World) :
    Staging writer reader readEnd writeEnd v
      ((runStages writer reader readEnd writeEnd).run v) := by
  unfold runStages
  rw [run_bind]
  cases hfirst : v.refusal .fork with
  | some e =>
    rw [Proc.run_fork_refused hfirst]
    exact .unforked hfirst
  | none =>
    obtain ⟨u, hrun, hfork⟩ :=
      Proc.forked_of_isChild hfirst (isChild_writerChild writer readEnd writeEnd)
    rw [hrun]
    dsimp only
    rw [run_bind]
    cases hsecond : u.refusal .fork with
    -- The first child is on its way, and the shell is left with both ends of the pipe.
    | some e =>
      rw [Proc.run_fork_refused hsecond]
      exact .half hrun hfork hsecond
    | none =>
      obtain ⟨x, hrun', hfork'⟩ :=
        Proc.forked_of_isChild hsecond (isChild_readerChild reader readEnd writeEnd)
      rw [hrun']
      dsimp only
      rw [run_bind, run_closeEnds, run_bind, Proc.run_log]
      exact .whole hfork hfork' _

end Execution

/-! ### Moving -/

namespace Builtin

/-- What an attempt to move comes to. -/
inductive Move (shell : Shell) (w : World) : (Except ShellError Unit × Shell) × World → Prop
  /-- There is nowhere to go. -/
  | refused {e : ShellError} (h : e = .missingOperand ∨ ∃ operand cause, e = .changeDir operand cause)
      (calls : List CallKind) : Move shell w ((.error e, shell), { w with calls := calls })
  /-- The new directory has no path. -/
  | lost (e : Errno) (directory : Inode) (calls : List CallKind) :
      Move shell w ((.error (.workingDir e), shell),
        { w with self := { w.self with directory := directory }, calls := calls })
  /-- The new directory has a path, and that has been published. -/
  | arrived (cwd : Bytes) (directory : Inode) (env : Environment) (records : List Log.Record)
      (calls : List CallKind) (hpath : w.machine.tree.pathOf? directory = some cwd)
      (henv : env = Table.put (Text.lit "PWD") cwd w.self.environment) :
      Move shell w ((.ok (), { shell with cwd := cwd }),
        World.noting { w with
          self := { w.self with directory := directory, environment := env }, calls := calls } records)

/-- A shell without a new directory is where it was. -/
theorem changeDirectory_cases (path : Bytes) (w : World) :
    (∃ e, (Proc.changeDirectory path).run w = (.error e, w.counting .changeDirectory)) ∨
    ∃ directory, (Proc.changeDirectory path).run w = (.ok (), { w.counting .changeDirectory with
      self := { w.self with directory := directory } }) := by
  -- What the call itself does, if it is not refused.
  have hcall : ∀ c, (∃ e, (Call.changeDirectory path).run c = (.error e, c)) ∨
      ∃ directory, (Call.changeDirectory path).run c =
        (.ok (), { c with self := { c.self with directory := directory } }) := by
    intro c
    unfold Call.changeDirectory
    rw [run_bind, run_get]
    dsimp only
    cases c.machine.tree.enterDirectory c.self.directory path with
    | error e => exact .inl ⟨e, rfl⟩
    | ok directory => exact .inr ⟨directory, rfl⟩
  unfold Proc.changeDirectory
  cases h : w.refusal .changeDirectory with
  | some e =>
    rw [Proc.run_attempt_refused h]
    exact .inl ⟨e, rfl⟩
  | none =>
    rw [Proc.run_attempt_granted h, Proc.run_call]
    rcases hcall (w.counting .changeDirectory).toContext with ⟨e, h⟩ | ⟨directory, h⟩
    · rw [h]
      exact .inl ⟨e, rfl⟩
    · rw [h]
      exact .inr ⟨directory, rfl⟩

/-- Asking for the working directory changes nothing, and if there is an answer it is the path. -/
theorem run_workingDirectory (w : World) :
    ∃ r, Proc.workingDirectory.run w = (r, w.counting .workingDirectory) ∧
      ∀ cwd, r = .ok cwd → w.machine.tree.pathOf? w.self.directory = some cwd := by
  have hcall : ∀ c, ∃ r, Call.workingDirectory.run c = (r, c) ∧
      ∀ cwd, r = .ok cwd → c.machine.tree.pathOf? c.self.directory = some cwd := by
    intro c
    unfold Call.workingDirectory
    rw [run_bind, run_get]
    dsimp only
    cases c.machine.tree.pathOf? c.self.directory with
    | none => exact ⟨_, rfl, fun _ h => nomatch h⟩
    | some path => exact ⟨_, rfl, fun _ h => congrArg some (Except.ok.inj h)⟩
  unfold Proc.workingDirectory
  cases h : w.refusal .workingDirectory with
  | some e => exact ⟨_, Proc.run_attempt_refused h _, fun _ h => nomatch h⟩
  | none =>
    rw [Proc.run_attempt_granted h, Proc.run_call]
    obtain ⟨r, hr, hpath⟩ := hcall (w.counting .workingDirectory).toContext
    rw [hr]
    exact ⟨r, rfl, hpath⟩

theorem moveTo_cases (operand : Text) (w : World) :
    (∃ cause calls, (moveTo operand).run w =
      (.error (.changeDir operand cause), { w with calls := calls })) ∨
    ∃ directory calls, (moveTo operand).run w =
      (.ok (), { w with self := { w.self with directory := directory }, calls := calls }) := by
  unfold moveTo
  rw [run_bind, Proc.run_directories, run_bind, Proc.run_self]
  dsimp only
  split
  · exact .inl ⟨_, w.calls, rfl⟩
  · rw [run_bind]
    rcases changeDirectory_cases
        (expandTilde (w.directories.home w.self.environment) operand).bytes w with
      ⟨e, h⟩ | ⟨directory, h⟩
    · rw [h]
      exact .inl ⟨_, _, rfl⟩
    · rw [h]
      exact .inr ⟨directory, _, rfl⟩

/-- **An attempt to move has one of these outcomes.** -/
theorem move_cd (operand : Option Text) (shell : Shell) (w : World) :
    Move shell w (((cd operand).start shell).run w) := by
  unfold cd
  cases operand with
  | none => exact .refused (.inl rfl) w.calls
  | some operand =>
    dsimp only
    rw [Attempt.start_bind, Attempt.start_ofProc]
    rcases moveTo_cases operand w with ⟨cause, calls, h⟩ | ⟨directory, calls, h⟩
    · rw [h]
      exact .refused (.inr ⟨operand, cause, rfl⟩) calls
    · rw [h]
      dsimp only
      unfold Shell.syncCwd
      rw [Attempt.start_bind, Attempt.start_lift]
      -- The process has moved by now, whatever becomes of the question for its path.
      obtain ⟨r, h', hpath⟩ := run_workingDirectory
        { w with self := { w.self with directory := directory }, calls := calls }
      rw [h']
      cases r with
      | error e => exact .lost e directory _
      | ok cwd =>
        dsimp only
        rw [Attempt.start_bind, Attempt.start_lift]
        dsimp only
        rw [Attempt.start_bind, Attempt.start_lift, Proc.run_log]
        exact .arrived cwd directory _ _ _ (hpath cwd rfl) rfl

theorem move_of_cd {operand : Option Text} {shell : Shell} {w : World}
    {r : (Except ShellError Unit × Shell) × World} (h : ((cd operand).start shell).run w = r) :
    Move shell w r := h ▸ move_cd operand shell w

end Builtin

/-! ### Becoming a program -/

namespace Execution

/-- What an attempt to become a program comes to. -/
inductive Replacement (v : ArgVector) (w : World) : Except ShellError Image × World → Prop
  /-- An argument cannot be passed on. -/
  | unfit {e : ShellError} (h : argv v = .error e) : Replacement v w (.error e, w)
  /-- The program does not start, and the interrupts of the prompt are taken up again. -/
  | failed {args : List Text} (h : argv v = .ok args) (e : Errno) {made : List Event}
      (hmade : ∀ event ∈ made, ∃ words, event = .started words
        { w.self with interrupts := w.resetInterrupts } (.error e))
      (records : List Log.Record) (calls : List CallKind)
      {u : World} (hu : u = { w.altered w.resetInterrupts [] calls with trace := made ++ w.trace })
      (hcalls : w.calls <:+ calls) :
      Replacement v w (.error (.ofExec (program args) e),
        u.altered { u.installed .interactive with sigpipe := .ignore } records
          (.signalAction :: calls))
  /-- The program has taken the place of the shell. -/
  | started {args : List Text} (h : argv v = .ok args) (image : Image) {u : World}
      (hu : (Proc.exec args).run
        (w.altered w.resetInterrupts [] (.signalAction :: w.calls)) = (.ok image, u)) :
      Replacement v w (.ok image, u)

/-- A start enters the program, or leaves no more than the count of the call. -/
theorem tryExec_cases (argv : List Text) (w : World) :
    (∃ e, (Proc.tryExec argv).run w = (.error e, w.counting .exec)) ∨
    ∃ image, (Proc.tryExec argv).run w =
      (.ok image, { w.counting .exec with self := Exec.enter w.self }) := by
  unfold Proc.tryExec
  cases h : w.refusal .exec with
  | some e => exact .inl ⟨e, Proc.run_attempt_refused h _⟩
  | none =>
    rw [Proc.run_attempt_granted h, Proc.run_call]
    unfold Call.exec
    rw [run_bind, run_get]
    dsimp only
    cases Exec.find (w.counting .exec).toContext _ (argv.map Text.bytes) with
    | error e => exact .inl ⟨e, rfl⟩
    | ok image => exact .inr ⟨image, rfl⟩

/-- A program that does not start leaves a start in the trace, unless there was nothing to start. -/
theorem start_cases (args : List Text) (w : World) :
    (∃ e made calls u, (∀ event ∈ made, ∃ words, event = .started words w.self (.error e)) ∧
      u = { w with trace := made ++ w.trace, calls := calls } ∧ w.calls <:+ calls ∧
      (start args).run w = (.error e, u)) ∨
    ∃ image u, (Proc.exec args).run w = (.ok image, u) ∧ (start args).run w = (.ok image, u) := by
  unfold start
  split
  · exact .inl ⟨_, [], w.calls, w, fun _ h => absurd h List.not_mem_nil, rfl, List.suffix_rfl, rfl⟩
  · rw [Proc.run_exec]
    rcases tryExec_cases args w with ⟨e, h⟩ | ⟨image, h⟩
    · rw [h]
      refine .inl ⟨e, [.started args w.self (.error e)], _, _, ?_, rfl, List.suffix_cons _ _, rfl⟩
      intro event hevent
      exact ⟨args, List.mem_singleton.1 hevent⟩
    · rw [h]
      exact .inr ⟨image, _, rfl, rfl⟩

/-- What the shell does when a program has not started. -/
def resuming (e : ShellError) : Proc (Except ShellError Image) := do
  match ← Signals.resume with
  | .ok () => pure ()
  | .error refused => Proc.log ⟨.debug, source, refused.message, []⟩
  return .error e

/-- The interrupts of the prompt are taken up again, and a refusal of that is but logged. -/
theorem run_resuming (e : ShellError) (u : World) :
    ∃ records, (resuming e).run u =
      (.error e, u.altered { u.installed .interactive with sigpipe := .ignore } records
        (.signalAction :: u.calls)) := by
  obtain ⟨records, hresume⟩ := Signals.run_resume u
  unfold resuming
  rw [run_bind, hresume]
  cases (Signals.resume.run u).1 with
  | ok _ => exact ⟨records, rfl⟩
  | error refused =>
    dsimp only
    rw [run_bind, Proc.run_log, World.noting_eq_altered, World.altered_altered]
    exact ⟨_, rfl⟩

/-- **An attempt to become a program has one of these outcomes.** -/
theorem replacement_replaceImage (v : ArgVector) (w : World) :
    Replacement v w ((replaceImage v).run w) := by
  unfold replaceImage
  cases hargs : argv v with
  | error e => exact .unfit hargs
  | ok args =>
    dsimp only
    rw [run_bind, Signals.run_resetForChild, run_bind]
    rcases start_cases args (w.altered w.resetInterrupts [] (.signalAction :: w.calls)) with
      ⟨e, made, calls, u, hmade, hu, hgrow, h⟩ | ⟨image, u, hexec, h⟩
    · have hcalls : u.calls = calls := by rw [hu]
      obtain ⟨records, hresume⟩ := run_resuming (.ofExec (program args) e) u
      rw [h]
      refine (congrArg (Replacement v w) hresume).mpr ?_
      rw [hcalls]
      exact .failed hargs e hmade records calls hu ((List.suffix_cons _ _).trans hgrow)
    · rw [h]
      exact .started hargs image hexec

end Execution

end LineShell
