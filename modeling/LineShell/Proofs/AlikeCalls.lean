import LineShell.Proofs.AlikeMachines
/-!
# Calls that overlook a log and the interrupt

A process is seen without what it does on an interrupt, `Process.masked`. Two contexts are alike,
`Context.Alike`, when their processes are the same in this view and their machines are alike.

A call respects this, `Call.Respects`, when it has the same answers in alike contexts and leaves
alike contexts. The calls of a shell and its children do, up to the search for a program
(`Call.respects_exec`).
-/

namespace LineShell

variable {α β : Type}

/-! ### Contexts -/

namespace Process

/-- A process without what it does on an interrupt. What it does on a broken pipe stays. -/
def masked (p : Process) : Process :=
  { p with interrupts := { p.interrupts with recorded := .default, sigint := .default } }

theorem eq_of_masked {p q : Process} (h : q.masked = p.masked) :
    q = { p with
      interrupts := ⟨q.interrupts.recorded, q.interrupts.sigint, p.interrupts.sigpipe⟩ } := by
  obtain ⟨pid, parent, descriptors, limit, ⟨recorded, sigint, sigpipe⟩, directory, mask,
    environment⟩ := p
  obtain ⟨pid', parent', descriptors', limit', ⟨recorded', sigint', sigpipe'⟩, directory', mask',
    environment'⟩ := q
  cases h
  rfl

end Process

namespace Context

variable {p : Log.Place} {c c' : Context}

/-- The contexts differ at most in the log and in what their processes do on an interrupt. -/
structure Alike (p : Log.Place) (c c' : Context) : Prop where
  self : c'.self.masked = c.self.masked
  machine : c.machine.Alike p c'.machine

/-- The second of two alike contexts as an update of the first. -/
theorem Alike.cases (h : c.Alike p c') :
    ∃ recorded sigint m, c.machine.Alike p m ∧ c' =
      ⟨{ c.self with interrupts := ⟨recorded, sigint, c.self.interrupts.sigpipe⟩ }, m⟩ := by
  obtain ⟨self, machine⟩ := c'
  refine ⟨self.interrupts.recorded, self.interrupts.sigint, machine, h.machine, ?_⟩
  rw [← Process.eq_of_masked h.self]

theorem Alike.descriptors (h : c.Alike p c') : c'.self.descriptors = c.self.descriptors := by
  rw [Process.eq_of_masked h.self]

theorem Alike.environment (h : c.Alike p c') : c'.self.environment = c.self.environment := by
  rw [Process.eq_of_masked h.self]

theorem Alike.sigpipe (h : c.Alike p c') :
    c'.self.interrupts.sigpipe = c.self.interrupts.sigpipe := by
  rw [Process.eq_of_masked h.self]

end Context

/-- The call has the same answers in alike contexts, and leaves alike contexts. -/
def Call.Respects (p : Log.Place) (act : Call α) : Prop :=
  ∀ c c', c.Alike p c' → (act.run c').1 = (act.run c).1 ∧ (act.run c).2.Alike p (act.run c').2

/-! ### Numbers and writes -/

namespace Call

variable {p : Log.Place}

theorem respects_pure (a : α) : Respects p (pure a : Call α) := fun _ _ h => ⟨rfl, h⟩

theorem Respects.bind {x : Call α} {f : α → Call β} (hx : Respects p x)
    (hf : ∀ a, Respects p (f a)) : Respects p (x >>= f) := by
  intro c c' h
  obtain ⟨heq, hafter⟩ := hx c c' h
  rw [run_bind, run_bind, heq]
  exact hf _ _ _ hafter

theorem respects_handle? (fd : Nat) : Respects p (handle? fd) := by
  intro c c' h
  obtain ⟨recorded, sigint, m, -, rfl⟩ := h.cases
  exact ⟨rfl, h⟩

theorem respects_allocate (description : Nat) (closeOnExec : Bool) :
    Respects p (allocate description closeOnExec) := by
  intro c c' h
  obtain ⟨recorded, sigint, m, hmachine, rfl⟩ := h.cases
  unfold allocate
  rw [run_bind, run_bind, run_get, run_get]
  dsimp only
  split
  · exact ⟨rfl, rfl, hmachine⟩
  · exact ⟨rfl, h⟩

theorem respects_close (fd : Nat) : Respects p (close fd) := by
  intro c c' h
  obtain ⟨recorded, sigint, m, hmachine, rfl⟩ := h.cases
  exact ⟨rfl, rfl, hmachine⟩

theorem respects_duplicate (fd : Nat) (closeOnExec : Bool) :
    Respects p (duplicate fd closeOnExec) := by
  refine (respects_handle? fd).bind fun handle => ?_
  cases handle with
  | none => exact respects_pure _
  | some handle => exact respects_allocate _ _

theorem respects_duplicateTo (fd target : Nat) : Respects p (duplicateTo fd target) := by
  refine (respects_handle? fd).bind fun handle => ?_
  cases handle with
  | none => exact respects_pure _
  | some handle =>
    dsimp only
    split
    · exact respects_pure _
    · intro c c' h
      obtain ⟨recorded, sigint, m, hmachine, rfl⟩ := h.cases
      exact ⟨rfl, rfl, hmachine⟩

/-- **Reading elsewhere than from the log finds the same**, and changes nothing. -/
theorem run_peek_alike {c c' : Context} (h : c.Alike p c') {fd : Nat}
    (hapart : ∀ handle ∈ Table.get? fd c.self.descriptors,
      ∀ channel ∈ c.machine.channel? handle.description, p.file.map Channel.node ≠ some channel) :
    ∃ r, (peek fd).run c = (r, c) ∧ (peek fd).run c' = (r, c') := by
  have hdescriptors : Table.get? fd c'.self.descriptors = Table.get? fd c.self.descriptors := by
    rw [h.descriptors]
  cases hget : Table.get? fd c.self.descriptors with
  | none => exact ⟨_, run_peek_closed hget, run_peek_closed (hdescriptors.trans hget)⟩
  | some handle =>
    refine ⟨_, run_peek hget, (run_peek (hdescriptors.trans hget)).trans ?_⟩
    rw [h.machine.ahead (hapart handle hget)]

theorem respects_write (fd : Nat) (bytes : Bytes) : Respects p (write fd bytes) := by
  refine (respects_handle? fd).bind fun handle => ?_
  cases handle with
  | none => exact respects_pure _
  | some handle =>
    intro c c' h
    obtain ⟨recorded, sigint, m, hmachine, rfl⟩ := h.cases
    dsimp only
    rw [run_bind, run_bind, run_get, run_get]
    dsimp only
    rcases hmachine.writeTo handle.description bytes with ⟨e, he, he'⟩ | ⟨n, n', hn, hn', hafter⟩
    · rw [he, he']
      exact ⟨rfl, h⟩
    · rw [hn, hn']
      exact ⟨rfl, rfl, hafter⟩

theorem respects_setVariable (name : Text) (value : Bytes) :
    Respects p (setVariable name value) := by
  intro c c' h
  obtain ⟨recorded, sigint, m, hmachine, rfl⟩ := h.cases
  exact ⟨rfl, rfl, hmachine⟩

/-- **A pipe has the same numbers in both.** -/
theorem respects_pipe : Respects p pipe := by
  intro c c' h
  have hmachine : c.machine.withPipe.Alike p c'.machine.withPipe := by
    unfold Machine.withPipe
    rw [h.machine.pipes]
    exact ((h.machine.withPipes (c.machine.pipes ++ [⟨.finite [], true⟩])).addDescription
      ⟨.pipeRead c.machine.pipes.length, 0, false, true, false⟩).addDescription
        ⟨.pipeWrite c.machine.pipes.length, 0, false, false, true⟩
  have hmade : Context.Alike p { c with machine := c.machine.withPipe }
      { c' with machine := c'.machine.withPipe } := ⟨h.self, hmachine⟩
  rw [run_pipe, run_pipe]
  dsimp only
  rw [h.machine.length_eq]
  obtain ⟨hread, hafter⟩ := respects_allocate c.machine.descriptions.length false _ _ hmade
  rcases hr : (allocate c.machine.descriptions.length false).run
    { c with machine := c.machine.withPipe } with ⟨answer, halfway⟩
  rcases hr' : (allocate c.machine.descriptions.length false).run
    { c' with machine := c'.machine.withPipe } with ⟨answer', halfway'⟩
  rw [hr, hr'] at hread hafter
  cases hread
  cases answer with
  -- Without two free numbers both contexts are left as they were.
  | error e => exact ⟨rfl, h⟩
  | ok readEnd =>
    dsimp only
    obtain ⟨hwrite, hdone⟩ := respects_allocate (c.machine.descriptions.length + 1) false _ _ hafter
    rcases hw : (allocate (c.machine.descriptions.length + 1) false).run halfway with ⟨answer, done⟩
    rcases hw' : (allocate (c.machine.descriptions.length + 1) false).run halfway' with
      ⟨answer', done'⟩
    dsimp only at hwrite hdone
    rw [hw, hw'] at hwrite hdone
    cases hwrite
    cases answer with
    | error e => exact ⟨rfl, h⟩
    | ok writeEnd => exact ⟨rfl, hdone⟩

/-! ### Paths -/

theorem respects_changeDirectory (path : Bytes) : Respects p (changeDirectory path) := by
  intro c c' h
  obtain ⟨recorded, sigint, m, hmachine, rfl⟩ := h.cases
  unfold changeDirectory
  rw [run_bind, run_bind, run_get, run_get]
  dsimp only
  rw [FileTree.enterDirectory_congr hmachine.tree.sameOutline]
  cases c.machine.tree.enterDirectory c.self.directory path with
  | error e => exact ⟨rfl, h⟩
  | ok directory => exact ⟨rfl, rfl, hmachine⟩

theorem respects_workingDirectory : Respects p workingDirectory := by
  intro c c' h
  obtain ⟨recorded, sigint, m, hmachine, rfl⟩ := h.cases
  unfold workingDirectory
  rw [run_bind, run_bind, run_get, run_get]
  dsimp only
  rw [FileTree.pathOf?_congr hmachine.tree.sameOutline]
  cases c.machine.tree.pathOf? c.self.directory with
  | none => exact ⟨rfl, h⟩
  | some path => exact ⟨rfl, h⟩

/-- What opening comes to in both: the same failure, or the same channel and alike trees. -/
def OpenedAlike (p : Log.Place) (r r' : Except Errno (FileTree × Channel)) : Prop :=
  (∃ e, r = .error e ∧ r' = .error e) ∨
  ∃ t t' channel, r = .ok (t, channel) ∧ r' = .ok (t', channel) ∧ t.Alike p t'

theorem openedAlike_error (e : Errno) : OpenedAlike p (.error e) (.error e) := .inl ⟨e, rfl, rfl⟩

theorem openedAlike_ok {t t' : FileTree} (h : t.Alike p t') (channel : Channel) :
    OpenedAlike p (.ok (t, channel)) (.ok (t', channel)) := .inr ⟨t, t', channel, rfl, rfl, h⟩

theorem openedAlike_openNode {t t' : FileTree} (h : t.Alike p t') (i : Inode) (mode : OpenMode) :
    OpenedAlike p (openNode t i mode) (openNode t' i mode) := by
  unfold openNode
  rcases h.nodes i with hn | ⟨-, content, content', permissions, hn, hn'⟩
  · rw [hn]
    cases t.node? i with
    | none => exact openedAlike_error _
    | some n =>
      obtain ⟨kind, permissions⟩ := n
      cases kind with
      | directory =>
        dsimp only
        split
        · exact openedAlike_error _
        split
        · exact openedAlike_ok h _
        · exact openedAlike_error _
      | link => exact openedAlike_error _
      | file content =>
        dsimp only
        split
        · exact openedAlike_error _
        · refine openedAlike_ok ?_ _
          split
          · exact h.setKind i _
          · exact h
      | device device =>
        dsimp only
        split
        · exact openedAlike_error _
        · cases device with
          | terminal => exact openedAlike_error _
          | _ => exact openedAlike_ok h _
      | program =>
        dsimp only
        split
        · exact openedAlike_error _
        · exact openedAlike_ok h _
  · rw [hn, hn']
    dsimp only
    -- Whether it may be opened does not depend on what it holds.
    show OpenedAlike p (if !permits ⟨.file content, permissions⟩ mode then _ else _)
      (if !permits ⟨.file content, permissions⟩ mode then _ else _)
    split
    · exact openedAlike_error _
    · refine openedAlike_ok ?_ _
      split
      · exact h.setKind i _
      · exact h

theorem openedAlike_reopen {t t' : FileTree} (h : t.Alike p t') (channel : Channel)
    (mode : OpenMode) : OpenedAlike p (reopen t channel mode) (reopen t' channel mode) := by
  unfold reopen
  cases channel with
  | node i => exact openedAlike_openNode h i mode
  | _ => exact openedAlike_ok h _

/-- **A path is opened to the same channel in both.** -/
theorem openedAlike_openPath {c c' : Context} (h : c.Alike p c') (path : Bytes) (mode : OpenMode) :
    OpenedAlike p (openPath c path mode) (openPath c' path mode) := by
  obtain ⟨recorded, sigint, m, hmachine, rfl⟩ := h.cases
  -- Paths lead to the same places, since the trees differ at most in what the log holds.
  have hsame := hmachine.tree.sameOutline
  unfold openPath
  dsimp only
  rw [FileTree.walk_congr hsame, FileTree.walk_congr hsame]
  split
  · cases c.machine.tree.walk false c.self.directory (Path.trimmed path) <;>
      exact openedAlike_error _
  cases c.machine.tree.walk true c.self.directory path with
  | error e => exact openedAlike_error e
  | ok place =>
    cases place with
    | vacant directory name =>
      dsimp only
      split
      -- What the umask leaves of the bits has nothing to do with the interrupt.
      · have hbits : newBits { c.self with interrupts := ⟨recorded, sigint,
            c.self.interrupts.sigpipe⟩ } 0o666 = newBits c.self 0o666 := rfl
        rw [hbits]
        rcases hmachine.tree.create directory name (.file [] (newBits c.self 0o666)) with
          ⟨e, he, he'⟩ | ⟨i, t, t', ht, ht', halike⟩
        · rw [he, he']
          exact openedAlike_error e
        · rw [ht, ht']
          exact openedAlike_ok halike _
      · exact openedAlike_error _
    | occupied i entry =>
      have hopen := openedAlike_openNode hmachine.tree i mode
      -- The kinds are the same, or both are regular files.
      have hkind : (m.tree.node? i).map Node.kind = (c.machine.tree.node? i).map Node.kind ∨
          ∃ content content', (c.machine.tree.node? i).map Node.kind = some (.file content) ∧
            (m.tree.node? i).map Node.kind = some (.file content') := by
        rcases hmachine.tree.nodes i with hn | ⟨-, content, content', permissions, hn, hn'⟩
        · exact .inl (by rw [hn])
        · exact .inr ⟨content, content', by rw [hn]; rfl, by rw [hn']; rfl⟩
      dsimp only
      rcases hkind with hkind | ⟨content, content', hkind, hkind'⟩
      · rw [hkind]
        -- A link to a descriptor opens what the descriptor leads to.
        split
        · rename_i number heq
          cases Table.get? number c.self.descriptors with
          | none => exact openedAlike_error _
          | some handle =>
            dsimp only [Option.bind]
            rcases hmachine.description?_cases handle.description with
              ⟨hd, hd'⟩ | ⟨desc, offset, hd, hd', -⟩
            · rw [hd, hd']
              exact openedAlike_error _
            · rw [hd, hd']
              exact openedAlike_reopen hmachine.tree desc.channel mode
        · exact hopen
      · rw [hkind, hkind']
        exact hopen

theorem respects_openFile (path : Bytes) (mode : OpenMode) :
    Respects p (openFile path mode) := by
  intro c c' h
  have hopen := openedAlike_openPath h path mode
  obtain ⟨recorded, sigint, m, hmachine, rfl⟩ := h.cases
  unfold openFile
  rw [run_bind, run_bind, run_get, run_get]
  dsimp only
  split
  · exact ⟨rfl, h⟩
  rcases hopen with ⟨e, he, he'⟩ | ⟨t, t', channel, ht, ht', htree⟩
  · rw [he, he']
    exact ⟨rfl, h⟩
  · rw [ht, ht']
    dsimp only [Machine.addDescription]
    rw [run_bind, run_bind, run_set, run_set, hmachine.length_eq]
    exact respects_allocate _ _ _ _ ⟨h.self, (hmachine.withTree htree).addDescription _⟩

end Call

/-! ### Starting programs -/

namespace Exec

variable {p : Log.Place} {c c' : Context}

/-- The contexts lead to the same files that can be run, and have the same variables. -/
structure SameFiles (c c' : Context) : Prop where
  environment : c'.self.environment = c.self.environment
  executable : ∀ path, executable c' path = executable c path

/-- The file of the log is no program, so its contents decide nothing. -/
theorem executable_congr (h : c.Alike p c') (path : Bytes) :
    executable c' path = executable c path := by
  obtain ⟨recorded, sigint, m, hmachine, rfl⟩ := h.cases
  unfold executable
  dsimp only
  rw [FileTree.find_congr hmachine.tree.sameOutline]
  split
  · rfl
  cases c.machine.tree.find true c.self.directory path with
  | error e => rfl
  | ok i =>
    dsimp only
    rcases hmachine.tree.nodes i with hn | ⟨hfile, content, content', permissions, hn, hn'⟩
    · rw [hn]
    · obtain ⟨node, hnode, hinert⟩ := hmachine.tree.inert i hfile
      rw [hn] at hnode
      cases hnode
      rw [hn, hn']
      dsimp only at hinert ⊢
      -- Nobody can run the log, whatever it holds.
      rw [hinert]
      rfl

theorem SameFiles.of_alike (h : c.Alike p c') : SameFiles c c' :=
  ⟨h.environment, executable_congr h⟩

theorem resolve_congr (h : SameFiles c c') (file : Bytes) (count fuel : Nat) (node : Node)
    (path : Bytes) (argv : List Bytes) :
    resolve c' file count fuel node path argv = resolve c file count fuel node path argv := by
  -- One interpreter after another is looked up, and each look-up is the same.
  induction fuel generalizing node path argv with
  | zero =>
    unfold resolve
    simp only [h.environment, h.executable]
  | succ fuel ih =>
    unfold resolve
    simp only [h.environment, h.executable, ih]

theorem loadOrInterpret_congr (h : SameFiles c c') (path : Bytes) (argv : List Bytes) :
    loadOrInterpret c' path argv = loadOrInterpret c path argv := by
  have hload : ∀ path argv, load c' path argv = load c path argv := by
    intro path argv
    unfold load
    simp only [h.executable, resolve_congr h]
  unfold loadOrInterpret
  simp only [hload]

theorem search_congr (h : SameFiles c c') (name : Bytes) (argv : List Bytes) (refused : Bool)
    (last : Errno) (directories : List Bytes) :
    search c' name argv refused last directories = search c name argv refused last directories := by
  induction directories generalizing refused last with
  | nil => rfl
  | cons directory rest ih =>
    unfold search
    simp only [loadOrInterpret_congr h, ih]

theorem find_congr (h : SameFiles c c') (name : Bytes) (argv : List Bytes) :
    find c' name argv = find c name argv := by
  unfold find
  simp only [h.environment, loadOrInterpret_congr h, search_congr h]

end Exec

/-- **The same program is found in both**, or its search fails for the same reason. -/
theorem Call.respects_exec {p : Log.Place} (name : Bytes) (argv : List Bytes) :
    Respects p (exec name argv) := by
  intro c c' h
  have hfind := Exec.find_congr (.of_alike h) name argv
  obtain ⟨recorded, sigint, m, hmachine, rfl⟩ := h.cases
  unfold exec
  rw [run_bind, run_bind, run_get, run_get]
  dsimp only
  rw [hfind]
  cases Exec.find c name argv with
  | error e => exact ⟨rfl, h⟩
  | ok image => exact ⟨rfl, rfl, hmachine⟩

end LineShell
