import LineShell.Proofs.DescriptorTables
/-!
# What a child does, step by step

The steps of a child change its numbers, its interrupts and the machine, and `World.acted` is the
world in which they have. Each step is an equation between such worlds.

* `Execution.Standing` is how a child stands that has tried to start its program: it runs with
  stated numbers on an untouched machine, or it has ended with a report on its output.
* `attempted_simpleChild`, `attempted_writerChild` and `attempted_readerChild` say so for three kinds
  of children. A child with a target may have failed to open it before (`redirected_redirectChild`).
* `Call.PathOpens` lists what opening a path comes to, and `Call.NodeOpens` what opening a node does.
* The report of a child goes where the shell's own output goes. A writer can always keep that
  output, because closing the read end leaves a number for it; a child with a target that could not
  keep it could not have opened the target either.
-/

namespace LineShell

open DescriptorTable (keeping FreeToKeep FreeFor)

/-! ### Outputs -/

namespace DescriptorTable

/-- Standard output leads to the same open description. -/
def SameOutput (t t' : DescriptorTable) : Prop :=
  (Table.get? Execution.stdout t').map Handle.description =
    (Table.get? Execution.stdout t).map Handle.description

theorem SameOutput.refl (t : DescriptorTable) : SameOutput t t := rfl

theorem sameOutput_put_stdout {output : Nat} {closeOnExec : Bool} {t : DescriptorTable}
    {handle : Handle} (h : Table.get? Execution.stdout t = some handle)
    (houtput : handle.description = output) (t' : DescriptorTable) :
    SameOutput t (Table.put Execution.stdout ⟨output, closeOnExec⟩ t') := by
  unfold SameOutput
  rw [Table.get?_put_self, h, ← houtput]
  rfl

end DescriptorTable

/-- What is written depends on where the number leads alone. -/
theorem Machine.written_of_sameOutput {t t' : DescriptorTable} (h : t.SameOutput t') (m : Machine)
    (bytes : Bytes) :
    m.written t' Execution.stdout bytes = m.written t Execution.stdout bytes := by
  unfold DescriptorTable.SameOutput at h
  unfold written
  cases hget : Table.get? Execution.stdout t with
  | none =>
    rw [hget, Option.map_none, Option.map_eq_none_iff] at h
    rw [h]
  | some handle =>
    rw [hget] at h
    obtain ⟨handle', hget', hdescription⟩ := Option.map_eq_some_iff.1 h
    rw [hget']
    dsimp only
    rw [hdescription]

/-! ### Steps -/

namespace World

/-- The machine as this process sees it with other numbers and interrupts, and on another machine. -/
def seeing (w : World) (t : DescriptorTable) (i : Interrupts) (m : Machine) : Context :=
  { self := { w.self with descriptors := t, interrupts := i }, machine := m }

/-- The world in which this process has other numbers and interrupts, on another machine, with these
calls counted and these events noted. -/
def acted (w : World) (t : DescriptorTable) (i : Interrupts) (m : Machine) (calls : List CallKind)
    (made : List Event) : World :=
  { w with toContext := w.seeing t i m, calls := calls, trace := made ++ w.trace }

/-- A duplicate is refused only for want of a number. -/
def GrantsDuplicates (w : World) : Prop := ∀ n, w.faults .duplicate n = none

end World

/-- The machine with an open description more, on a tree that opening it may have changed. -/
def Machine.opening (m : Machine) (tree : FileTree) (d : Description) : Machine :=
  { m with tree := tree, descriptions := m.descriptions ++ [d] }

namespace Call

variable {c : Context}

theorem run_allocate_free (h : c.self.descriptors.lowestFree < c.self.limit) (description : Nat)
    (closeOnExec : Bool) :
    (allocate description closeOnExec).run c =
      (.ok c.self.descriptors.lowestFree, { c with self := { c.self with
        descriptors := Table.put c.self.descriptors.lowestFree ⟨description, closeOnExec⟩
          c.self.descriptors } }) := by
  unfold allocate
  rw [run_bind, run_get]
  dsimp only
  rw [if_pos h]
  rfl

theorem run_allocate_full (h : c.self.limit ≤ c.self.descriptors.lowestFree) (description : Nat)
    (closeOnExec : Bool) : (allocate description closeOnExec).run c = (.error .tooManyOpen, c) := by
  unfold allocate
  rw [run_bind, run_get]
  dsimp only
  rw [if_neg (Nat.not_lt.2 h)]
  rfl

theorem run_duplicate {fd : Nat} {handle : Handle}
    (h : Table.get? fd c.self.descriptors = some handle) (closeOnExec : Bool) :
    (duplicate fd closeOnExec).run c = (allocate handle.description closeOnExec).run c := by
  unfold duplicate handle?
  rw [run_bind, run_bind, run_get]
  dsimp only
  rw [run_pure, h]

theorem run_duplicateTo {fd target : Nat} {handle : Handle}
    (h : Table.get? fd c.self.descriptors = some handle) (hne : fd ≠ target) :
    (duplicateTo fd target).run c = (.ok (), { c with self := { c.self with
      descriptors := Table.put target ⟨handle.description, false⟩ c.self.descriptors } }) := by
  unfold duplicateTo handle?
  rw [run_bind, run_bind, run_get]
  dsimp only
  rw [run_pure, h]
  dsimp only
  rw [if_neg hne]
  rfl

/-- **What opening a node comes to**: a device is opened as such and a file is emptied if the mode
says so; anything else is opened as it is, a directory only for reading. -/
inductive NodeOpens (t : FileTree) (i : Inode) (mode : OpenMode) : FileTree → Channel → Prop
  | directory {n : Node} (hnode : t.node? i = some n) (hdirectory : n.isDirectory = true)
      (hwritable : mode.writable = false) : NodeOpens t i mode t (.node i)
  | program {name : Text} (hkind : (t.node? i).map Node.kind = some (.program name)) :
      NodeOpens t i mode t (.node i)
  | device {d : Device} (hkind : (t.node? i).map Node.kind = some (.device d)) :
      NodeOpens t i mode t (.device d)
  | file {content : Bytes} (hkind : (t.node? i).map Node.kind = some (.file content)) :
      NodeOpens t i mode (if mode.truncate then t.setKind i (.file []) else t) (.node i)

theorem nodeOpens_of_openNode {t t' : FileTree} {i : Inode} {mode : OpenMode} {channel : Channel}
    (h : openNode t i mode = .ok (t', channel)) : NodeOpens t i mode t' channel := by
  unfold openNode at h
  cases hnode : t.node? i with
  | none =>
    rw [hnode] at h
    cases h
  | some n =>
    obtain ⟨kind, permissions⟩ := n
    have hkind : (t.node? i).map Node.kind = some kind := by rw [hnode]; rfl
    rw [hnode] at h
    cases kind with
    | directory entries parent reachable =>
      dsimp only at h
      split at h
      · cases h
      · rename_i hreading
        split at h
        · cases h
          refine .directory hnode rfl ?_
          cases hwritable : mode.writable with
          | false => rfl
          | true => exact absurd (by rw [hwritable]; rfl) hreading
        · cases h
    | link target => cases h
    -- The other kinds are opened if the permissions of the node allow it.
    | file content =>
      dsimp only at h
      split at h
      · cases h
      · cases h
        exact .file hkind
    | program name =>
      dsimp only at h
      split at h
      · cases h
      · cases h
        exact .program hkind
    | device d =>
      dsimp only at h
      split at h
      · cases h
      · cases d with
        | terminal => cases h
        | _ =>
          cases h
          exact .device hkind

/-- **What opening a path comes to**: a file is made where there is none, the path of an open number
is opened as what the number leads to, and any other node as it is. -/
inductive PathOpens (c : Context) (path : Bytes) (mode : OpenMode) : FileTree → Channel → Prop
  | made {directory i : Inode} {name : Bytes} {t : FileTree} (hcreate : mode.create = true)
      (hwalk : c.machine.tree.walk true c.self.directory path = .ok (.vacant directory name))
      (hmade : c.machine.tree.create directory name (.file [] (newBits c.self 0o666)) =
        .ok (t, i)) : PathOpens c path mode t (.node i)
  | again {i : Inode} {entry : Option (Inode × Bytes)} {number : Nat} {handle : Handle}
      {desc : Description} {t : FileTree} {channel : Channel}
      (hwalk : c.machine.tree.walk true c.self.directory path = .ok (.occupied i entry))
      (hkind : (c.machine.tree.node? i).map Node.kind = some (.device (.handle number)))
      (hget : Table.get? number c.self.descriptors = some handle)
      (hdesc : c.machine.description? handle.description = some desc)
      (h : reopen c.machine.tree desc.channel mode = .ok (t, channel)) :
      PathOpens c path mode t channel
  | node {i : Inode} {entry : Option (Inode × Bytes)} {t : FileTree} {channel : Channel}
      (hwalk : c.machine.tree.walk true c.self.directory path = .ok (.occupied i entry))
      (h : NodeOpens c.machine.tree i mode t channel) : PathOpens c path mode t channel

theorem pathOpens_of_openPath {path : Bytes} {mode : OpenMode} {t : FileTree} {channel : Channel}
    (h : openPath c path mode = .ok (t, channel)) : PathOpens c path mode t channel := by
  unfold openPath at h
  dsimp only at h
  -- A path that names a directory makes no file, whatever is there.
  split at h
  · split at h <;> cases h
  cases hwalk : c.machine.tree.walk true c.self.directory path with
  | error e =>
    rw [hwalk] at h
    cases h
  | ok place =>
    rw [hwalk] at h
    cases place with
    | vacant directory name =>
      dsimp only at h
      split at h
      · rename_i hcreate
        cases hmade : c.machine.tree.create directory name
            (.file [] (newBits c.self 0o666)) with
        | error e =>
          rw [hmade] at h
          cases h
        | ok made =>
          rw [hmade] at h
          cases h
          exact .made hcreate hwalk hmade
      · cases h
    | occupied i entry =>
      dsimp only at h
      split at h
      · rename_i number hkind
        split at h
        · rename_i desc hfound
          obtain ⟨handle, hget, hdesc⟩ := Option.bind_eq_some_iff.1 hfound
          exact .again hwalk hkind hget hdesc h
        · cases h
      · exact .node hwalk (nodeOpens_of_openNode h)

/-- A path that is opened gets the lowest free number. -/
theorem run_openFile {path : Bytes} {mode : OpenMode} {tree : FileTree} {channel : Channel}
    (h : c.self.descriptors.lowestFree < c.self.limit)
    (hopen : openPath c path mode = .ok (tree, channel)) :
    (openFile path mode).run c =
      (.ok c.self.descriptors.lowestFree,
        { self := { c.self with
            descriptors := Table.put c.self.descriptors.lowestFree
              ⟨c.machine.descriptions.length, mode.closeOnExec⟩ c.self.descriptors }
          machine := c.machine.opening tree
            ⟨channel, 0, mode.append, mode.readable, mode.writable⟩ }) := by
  unfold openFile
  rw [run_bind, run_get]
  dsimp only
  rw [if_neg (Nat.not_le.2 h), hopen]
  dsimp only [Machine.addDescription]
  rw [run_bind, run_set]
  exact run_allocate_free (c := ⟨c.self, c.machine.opening tree
    ⟨channel, 0, mode.append, mode.readable, mode.writable⟩⟩) h _ _

theorem run_openFile_error {path : Bytes} {mode : OpenMode}
    (h : c.self.limit ≤ c.self.descriptors.lowestFree ∨ ∃ e, openPath c path mode = .error e) :
    ∃ e, (openFile path mode).run c = (.error e, c) := by
  unfold openFile
  rw [run_bind, run_get]
  dsimp only
  split
  · exact ⟨_, rfl⟩
  · rename_i hlimit
    obtain ⟨e, he⟩ := h.resolve_left hlimit
    rw [he]
    exact ⟨e, rfl⟩

end Call

namespace Proc

variable {α : Type} {u : World} {t : DescriptorTable} {i : Interrupts} {m : Machine}
  {calls : List CallKind} {made : List Event}

theorem run_call_acted {act : Call α} {a : α} {t' : DescriptorTable} {m' : Machine}
    (h : act.run (u.seeing t i m) = (a, u.seeing t' i m')) :
    (Proc.call act).run (u.acted t i m calls made) = (a, u.acted t' i m' calls made) := by
  rw [run_call, show (u.acted t i m calls made).toContext = u.seeing t i m from rfl, h]
  rfl

/-- A call that may be refused is counted in any case. -/
theorem run_attempt_acted (kind : CallKind) (act : Proc (Except Errno α)) :
    (∃ e n, u.faults kind n = some e ∧
      (Proc.attempt kind act).run (u.acted t i m calls made) =
        (.error e, u.acted t i m (kind :: calls) made)) ∨
    (Proc.attempt kind act).run (u.acted t i m calls made) =
      act.run (u.acted t i m (kind :: calls) made) := by
  cases h : (u.acted t i m calls made).refusal kind with
  | some e =>
    rw [run_attempt_refused h]
    exact .inl ⟨e, _, h, rfl⟩
  | none =>
    rw [run_attempt_granted h]
    exact .inr rfl

theorem run_close (fd : Nat) :
    (Proc.close fd).run (u.acted t i m calls made) =
      ((), u.acted (Table.remove fd t) i m calls made) := rfl

theorem run_write_acted (fd : Nat) (text : Text) :
    (Proc.write fd text).run (u.acted t i m calls made) =
      ((), u.acted t i (m.written t fd text.bytes) calls made) := run_write fd text _

theorem run_duplicateTo {fd target : Nat} {handle : Handle} (h : Table.get? fd t = some handle)
    (hne : fd ≠ target) :
    (Proc.duplicateTo fd target).run (u.acted t i m calls made) =
      ((), u.acted (Table.put target ⟨handle.description, false⟩ t) i m calls made) := by
  unfold Proc.duplicateTo
  rw [run_bind, run_call_acted (Call.run_duplicateTo (c := u.seeing t i m) h hne)]
  rfl

/-- The output is kept if there is a number for it. -/
theorem run_saveOutput {output : Handle} (h : Table.get? Execution.stdout t = some output) :
    ∃ saved calls', Execution.saveOutput.run (u.acted t i m calls made) =
        (saved, u.acted (keeping saved output.description t) i m calls' made) ∧
      FreeToKeep saved t ∧
      (u.GrantsDuplicates → saved = none → u.self.limit ≤ t.lowestFree) := by
  unfold Execution.saveOutput Proc.duplicate
  rw [run_bind]
  rcases @run_attempt_acted _ u t i m calls made .duplicate
    (Proc.call (Call.duplicate Execution.stdout true)) with ⟨e, n, hrefused, hrun⟩ | hrun
  · rw [hrun]
    refine ⟨none, _, rfl, (fun _ h => nomatch h), fun hgrants _ => ?_⟩
    rw [hgrants n] at hrefused
    cases hrefused
  · rw [hrun]
    have hduplicate := Call.run_duplicate (c := u.seeing t i m) h true
    -- The call was granted, and so all depends on whether a number is free.
    rcases Nat.lt_or_ge t.lowestFree u.self.limit with hlimit | hlimit
    · rw [Call.run_allocate_free (c := u.seeing t i m) hlimit] at hduplicate
      rw [run_call_acted hduplicate]
      refine ⟨some t.lowestFree, _, rfl, ?_, fun _ h => nomatch h⟩
      rintro _ ⟨⟩
      exact t.get?_lowestFree
    · rw [Call.run_allocate_full (c := u.seeing t i m) hlimit] at hduplicate
      rw [run_call_acted hduplicate]
      exact ⟨none, _, rfl, (fun _ h => nomatch h), fun _ _ => hlimit⟩

/-- A path is opened with all that opening it changes, or nothing has happened. -/
theorem run_openFile (path : Bytes) (mode : OpenMode) :
    (∃ e calls', (Proc.openFile path mode).run (u.acted t i m calls made) =
      (.error e, u.acted t i m calls' (.opened path (.error e) :: made))) ∨
    ∃ tree channel calls', t.lowestFree < u.self.limit ∧
      Call.openPath (u.seeing t i m) path mode = .ok (tree, channel) ∧
      (Proc.openFile path mode).run (u.acted t i m calls made) =
        (.ok t.lowestFree,
          u.acted (Table.put t.lowestFree ⟨m.descriptions.length, mode.closeOnExec⟩ t) i
            (m.opening tree ⟨channel, 0, mode.append, mode.readable, mode.writable⟩) calls'
            (.opened path (.ok t.lowestFree) :: made)) := by
  unfold Proc.openFile
  rw [run_bind]
  rcases @run_attempt_acted _ u t i m calls made .openFile
    (Proc.call (Call.openFile path mode)) with ⟨e, n, hrefused, hrun⟩ | hrun
  · rw [hrun]
    exact .inl ⟨e, _, rfl⟩
  · rw [hrun]
    -- For want of a number, or if the path does not open, the call leaves all as it was.
    have herror : (u.self.limit ≤ t.lowestFree ∨
        ∃ e, Call.openPath (u.seeing t i m) path mode = .error e) →
        ∃ e, (Proc.call (Call.openFile path mode)).run (u.acted t i m (.openFile :: calls) made) =
          (.error e, u.acted t i m (.openFile :: calls) made) := by
      intro h
      obtain ⟨e, he⟩ := Call.run_openFile_error (c := u.seeing t i m) h
      exact ⟨e, run_call_acted he⟩
    rcases Nat.lt_or_ge t.lowestFree u.self.limit with hlimit | hlimit
    · cases hopen : Call.openPath (u.seeing t i m) path mode with
      | error e =>
        obtain ⟨e, he⟩ := herror (.inr ⟨e, hopen⟩)
        rw [he]
        exact .inl ⟨e, _, rfl⟩
      | ok opened =>
        rw [run_call_acted (Call.run_openFile (c := u.seeing t i m) hlimit hopen)]
        exact .inr ⟨opened.1, opened.2, _, hlimit, rfl, rfl⟩
    · obtain ⟨e, he⟩ := herror (.inl hlimit)
      rw [he]
      exact .inl ⟨e, _, rfl⟩

/-- A kept output is brought back, and the number for it closed. -/
theorem run_restoreOutput {fd output : Nat} {handle : Handle} (hfree : Table.get? fd t = none)
    (hne : fd ≠ Execution.stdout) :
    (Execution.restoreOutput (some fd)).run
        (u.acted (Table.put Execution.stdout handle (keeping (some fd) output t)) i m calls made) =
      ((), u.acted (Table.put Execution.stdout ⟨output, false⟩ t) i m calls made) := by
  have hkept : Table.get? fd (Table.put Execution.stdout handle (keeping (some fd) output t)) =
      some ⟨output, true⟩ := by
    rw [Table.get?_put_of_ne hne]
    exact Table.get?_put_self _ _ _
  unfold Execution.restoreOutput
  rw [run_bind, run_duplicateTo hkept hne, run_close,
    DescriptorTable.restored_keeping hfree hne]

end Proc

/-! ### Starting a program -/

/-- The process that was entered by a program, with the program. -/
def Event.entered? : Event → Option (Nat × Image)
  | .started _ caller (.ok image) => some (caller.pid, image)
  | _ => none

namespace Execution

variable {u : World} {t : DescriptorTable} {i : Interrupts} {m : Machine} {calls : List CallKind}
  {made : List Event} {args : List Text}

/-- How a child of these arguments stands that has tried to start its program, with what it has left:
its numbers, the machine and the events of the start. -/
inductive Standing (u : World) (args : List Text) (diagnostic : Text) (t : DescriptorTable)
    (m : Machine) : Fate → DescriptorTable → Machine → List Event → Prop
  /-- The program begins with these numbers, on this machine. -/
  | running {image : Image} {made : List Event}
      (hmade : made.filterMap Event.entered? = [(u.self.pid, image)]) :
      Standing u args diagnostic t m (.running image) t m made
  /-- A report has gone to the output, which is that of the shell again. -/
  | ended {t' : DescriptorTable} {made : List Event}
      (hout : u.GrantsDuplicates → u.self.descriptors.SameOutput t')
      (hmade : made.filterMap Event.entered? = []) :
      Standing u args diagnostic t m (.ended (.exited 0)) t'
        (m.written t' stdout diagnostic.bytes) made

/-- A start enters the program, or leaves no more than a failed start in the trace. -/
theorem run_start (args : List Text) :
    (∃ image i' calls' caller, caller.pid = u.self.pid ∧
      (start args).run (u.acted t i m calls made) =
        (.ok image, u.acted t.atExec i' m calls' (.started args caller (.ok image) :: made))) ∨
    ∃ e calls' failed, failed.filterMap Event.entered? = [] ∧
      (start args).run (u.acted t i m calls made) =
        (.error e, u.acted t i m calls' (failed ++ made)) := by
  unfold start
  split
  · exact .inr ⟨.noEntry, calls, [], rfl, rfl⟩
  · rw [Proc.run_exec]
    rcases tryExec_cases args (u.acted t i m calls made) with ⟨e, h⟩ | ⟨image, h⟩
    · rw [h]
      exact .inr ⟨e, .exec :: calls, [.started args (u.acted t i m calls made).self (.error e)], rfl,
        rfl⟩
    · rw [h]
      exact .inl ⟨image, i.atExec, .exec :: calls, (u.acted t i m calls made).self, rfl, rfl⟩

/-- A child has tried to start its program with these numbers, on this machine. -/
def Attempted (u : World) (args : List Text) (diagnostic : Text) (t : DescriptorTable) (m : Machine)
    (r : Fate × World) : Prop :=
  ∃ fate t' i m' calls made, Standing u args diagnostic t m fate t' m' made ∧
    r = (fate, u.acted t' i m' calls made)

/-- A child that starts its program or reports has tried to, if what it does before the report
brings back the output of the shell. -/
theorem attempted_startOr {recover : Proc Unit} {t' : DescriptorTable}
    (hrecover : ∀ calls made,
      recover.run (u.acted t i m calls made) = ((), u.acted t' i m calls made))
    (hout : u.GrantsDuplicates → u.self.descriptors.SameOutput t')
    (hmade : made.filterMap Event.entered? = []) (diagnostic : Text) :
    Attempted u args diagnostic t.atExec m
      ((startOr args recover diagnostic).run (u.acted t i m calls made)) := by
  unfold startOr
  rw [run_bind]
  rcases @run_start u t i m calls made args with
    ⟨image, i', calls', caller, hcaller, h⟩ | ⟨e, calls', failed, hfailed, h⟩
  · rw [h]
    refine ⟨_, _, i', _, calls', _, .running ?_, rfl⟩
    -- The program that is entered is the only one in the trace.
    show (caller.pid, image) :: made.filterMap Event.entered? = _
    rw [hmade, hcaller]
  · rw [h]
    dsimp only
    unfold report
    rw [run_bind, hrecover, run_bind, Proc.run_write_acted]
    -- A failed start enters no program, and the report goes where the output was.
    refine ⟨_, _, i, _, calls', _, .ended hout ?_, rfl⟩
    rw [List.filterMap_append, hfailed, hmade]
    rfl

/-! ### The four kinds of children -/

theorem run_resetForChild_acted (u : World) :
    ∃ i calls, Signals.resetForChild.run u =
      ((), u.acted u.self.descriptors i u.machine calls []) :=
  ⟨_, _, Signals.run_resetForChild u⟩

theorem attempted_simpleChild (u : World) (args : List Text) :
    Attempted u args (simpleDiagnostic args) u.self.descriptors.atExec u.machine
      ((simpleChild args).run u) := by
  obtain ⟨i, calls, hreset⟩ := run_resetForChild_acted u
  unfold simpleChild
  rw [run_bind, hreset]
  exact attempted_startOr (fun _ _ => rfl) (fun _ => .refl _) rfl _

/-- What a child does before a report brings back the output that it has kept. -/
theorem exists_restored {saved : Option Nat} {output : Handle} (hkeep : FreeToKeep saved t)
    (hout : Table.get? stdout t = some output) (handle : Handle)
    (hsaved : u.GrantsDuplicates → saved ≠ none) :
    ∃ t', (∀ calls made, (restoreOutput saved).run
        (u.acted (Table.put stdout handle (keeping saved output.description t)) i m calls made) =
          ((), u.acted t' i m calls made)) ∧
      (u.GrantsDuplicates → t.SameOutput t') := by
  cases saved with
  | none => exact ⟨_, fun _ _ => rfl, fun hgrants => absurd rfl (hsaved hgrants)⟩
  | some fd =>
    have hne : fd ≠ stdout := Ne.symm (Table.ne_of_get? hout (hkeep fd rfl))
    exact ⟨_, fun calls made => Proc.run_restoreOutput (hkeep fd rfl) hne,
      fun _ => DescriptorTable.sameOutput_put_stdout hout rfl t⟩

variable {readEnd writeEnd description : Nat} {output : Handle}

/-- **A writer** begins with the write end as its output. -/
theorem attempted_writerChild (hends : u.self.descriptors = t.withEnds readEnd writeEnd description)
    (hfree : FreeFor readEnd writeEnd t) (hlimit : readEnd < u.self.limit)
    (hout : Table.get? stdout t = some output) (args : List Text) :
    Attempted u args (stageDiagnostic 1 args)
      (DescriptorTable.atExec (Table.put stdout ⟨description + 1, false⟩ t)) u.machine
      ((writerChild args readEnd writeEnd).run u) := by
  have hread := Table.ne_of_get? hout hfree.1
  have hwrite := Table.ne_of_get? hout hfree.2.1
  obtain ⟨i, calls, hreset⟩ := run_resetForChild_acted u
  -- With the read end closed there is a number below the limit to keep the output at.
  let halved : DescriptorTable := Table.remove readEnd (t.withEnds readEnd writeEnd description)
  have hclosed : Table.remove writeEnd halved = t := DescriptorTable.remove_withEnds hfree _
  have hthere : Table.get? writeEnd halved = some ⟨description + 1, false⟩ := by
    rw [Table.get?_remove, if_neg (Ne.symm hfree.2.2)]
    exact Table.get?_put_self _ _ _
  have houtput : Table.get? stdout halved = some output := by
    rw [Table.get?_remove, if_neg hread, DescriptorTable.get?_withEnds hread hwrite, hout]
  have hnumber : halved.lowestFree < u.self.limit := by
    refine Nat.lt_of_le_of_lt (DescriptorTable.lowestFree_le ?_) hlimit
    rw [Table.get?_remove, if_pos rfl]
  obtain ⟨saved, calls', hsave, hkeep, hsaved⟩ :=
    @Proc.run_saveOutput u halved i u.machine calls [] output houtput
  have hother : ∀ fd ∈ saved, fd ≠ writeEnd := fun fd hfd =>
    Ne.symm (Table.ne_of_get? hthere (hkeep fd hfd))
  have hkeep' : FreeToKeep saved t := by
    intro fd hfd
    rw [← hclosed, Table.get?_remove, if_neg (hother fd hfd), hkeep fd hfd]
  have hmoved : Table.remove writeEnd (Table.put stdout ⟨description + 1, false⟩
      (keeping saved output.description halved)) =
        Table.put stdout ⟨description + 1, false⟩ (keeping saved output.description t) := by
    rw [Table.remove_put_of_ne (Ne.symm hwrite), DescriptorTable.remove_keeping hother, hclosed]
  obtain ⟨t', hrestore, hsame⟩ := exists_restored (u := u) (i := i) (m := u.machine) hkeep' hout
    ⟨description + 1, false⟩ fun hgrants hnone =>
      absurd (hsaved hgrants hnone) (Nat.not_le.2 hnumber)
  have hends' : t.SameOutput u.self.descriptors := by
    unfold DescriptorTable.SameOutput
    rw [hends, DescriptorTable.get?_withEnds hread hwrite]
  unfold writerChild
  rw [run_bind, hreset, run_bind, Proc.run_close, hends, run_bind, hsave, run_bind,
    Proc.run_duplicateTo (by rw [DescriptorTable.get?_keeping hother, hthere]) (Ne.symm hwrite),
    run_bind, Proc.run_close, hmoved]
  rw [← DescriptorTable.atExec_keeping hkeep' (by rw [hout]; rfl) _ output.description]
  exact attempted_startOr hrestore (fun hgrants => Eq.trans (hsame hgrants) hends'.symm)
    rfl _

/-- **A reader** begins with the read end as its input. -/
theorem attempted_readerChild {input : Handle}
    (hends : u.self.descriptors = t.withEnds readEnd writeEnd description)
    (hfree : FreeFor readEnd writeEnd t) (hin : Table.get? stdin t = some input)
    (hout : Table.get? stdout t = some output) (args : List Text) :
    Attempted u args (stageDiagnostic 2 args)
      (DescriptorTable.atExec (Table.put stdin ⟨description, false⟩ t)) u.machine
      ((readerChild args readEnd writeEnd).run u) := by
  have hread := Table.ne_of_get? hin hfree.1
  have hread' := Table.ne_of_get? hout hfree.1
  have hwrite' := Table.ne_of_get? hout hfree.2.1
  obtain ⟨i, calls, hreset⟩ := run_resetForChild_acted u
  -- The write end is closed first, which leaves the read end where it is.
  have hthere : Table.get? readEnd (Table.remove writeEnd
      (t.withEnds readEnd writeEnd description)) = some ⟨description, false⟩ := by
    unfold DescriptorTable.withEnds
    rw [Table.get?_remove, if_neg hfree.2.2, Table.get?_put_of_ne hfree.2.2, Table.get?_put_self]
  -- Only the input is replaced: the report of a reader goes to the output of the shell.
  have hsame : u.self.descriptors.SameOutput (Table.put stdin ⟨description, false⟩ t) := by
    unfold DescriptorTable.SameOutput
    rw [hends, DescriptorTable.get?_withEnds hread' hwrite', Table.get?_put_of_ne (by decide)]
  unfold readerChild
  rw [run_bind, hreset, run_bind, Proc.run_close, hends, run_bind,
    Proc.run_duplicateTo hthere (Ne.symm hread), run_bind, Proc.run_close,
    DescriptorTable.moved_readEnd hfree (Ne.symm hread)]
  exact attempted_startOr (fun _ _ => rfl) (fun _ => hsame) rfl _

/-- What a child with a target comes to. -/
inductive Redirected (u : World) (args : List Text) (target : Text) (mode : RedirectMode) :
    Fate × World → Prop
  /-- The target is not opened, and the child has ended with a report on the output of the shell. -/
  | unopened {t' : DescriptorTable} {i : Interrupts} {calls : List CallKind} {made : List Event}
      (hout : u.self.descriptors.SameOutput t')
      (hmade : made.filterMap Event.entered? = [])
      (hopened : ∃ e, .opened target.bytes (.error e) ∈ made) :
      Redirected u args target mode (.ended (.exited 0),
        u.acted t' i (u.machine.written t' stdout (openDiagnostic target).bytes) calls made)
  /-- The target is opened, and the child has tried to start its program with it as its output. -/
  | opened {t' : DescriptorTable} {i : Interrupts} {tree : FileTree} {channel : Channel}
      {r : Fate × World}
      (hopen : Call.openPath (u.seeing t' i u.machine) target.bytes (openMode mode) =
        .ok (tree, channel))
      (hr : Attempted u args (redirectDiagnostic args)
        (DescriptorTable.atExec
          (Table.put stdout ⟨u.machine.descriptions.length, false⟩ u.self.descriptors))
        (u.machine.opening tree ⟨channel, 0, (openMode mode).append, false, true⟩) r) :
      Redirected u args target mode r

/-- **A child with a target** begins with it as its output, or does not begin. -/
theorem redirected_redirectChild {u : World} {output : Handle}
    (hout : Table.get? stdout u.self.descriptors = some output) (args : List Text) (target : Text)
    (mode : RedirectMode) :
    Redirected u args target mode ((redirectChild args target mode).run u) := by
  have hmode : (openMode mode).closeOnExec = false ∧ (openMode mode).readable = false ∧
      (openMode mode).writable = true := by cases mode <;> exact ⟨rfl, rfl, rfl⟩
  obtain ⟨i, calls, hreset⟩ := run_resetForChild_acted u
  obtain ⟨saved, calls', hsave, hkeep, hsaved⟩ :=
    @Proc.run_saveOutput u u.self.descriptors i u.machine calls [] output hout
  have hother : ∀ fd ∈ saved, fd ≠ stdout := fun fd hfd =>
    Ne.symm (Table.ne_of_get? hout (hkeep fd hfd))
  let kept : DescriptorTable := keeping saved output.description u.self.descriptors
  have hkept : Table.get? stdout kept = some output := by
    rw [DescriptorTable.get?_keeping hother, hout]
  unfold redirectChild
  rw [run_bind, hreset, run_bind, hsave, run_bind]
  rcases @Proc.run_openFile u kept i u.machine calls' [] target.bytes (openMode mode) with
    ⟨e, calls'', hopened⟩ | ⟨tree, channel, calls'', hlimit, hopen, hopened⟩
  · rw [hopened]
    dsimp only
    unfold report
    rw [run_bind, Proc.run_write_acted]
    exact .unopened (congrArg (Option.map Handle.description) (hkept.trans hout.symm)) rfl
      ⟨e, List.mem_cons_self⟩
  · have hfree : Table.get? kept.lowestFree kept = none := kept.get?_lowestFree
    have hne : kept.lowestFree ≠ stdout := Ne.symm (Table.ne_of_get? hkept hfree)
    obtain ⟨t', hrestore, hsame⟩ := exists_restored (u := u) (i := i)
      (m := u.machine.opening tree ⟨channel, 0, (openMode mode).append, false, true⟩) hkeep hout
      ⟨u.machine.descriptions.length, false⟩ (by
        -- Without a number to keep the output at there was none for the target.
        rintro hgrants rfl
        exact Nat.not_le.2 hlimit (hsaved hgrants rfl))
    rw [hopened, hmode.1, hmode.2.1, hmode.2.2]
    dsimp only
    rw [run_bind, Proc.run_duplicateTo (Table.get?_put_self _ _ _) hne, run_bind, Proc.run_close,
      DescriptorTable.moved_put hfree hne]
    refine .opened hopen ?_
    rw [← DescriptorTable.atExec_keeping hkeep (by rw [hout]; rfl) _ output.description]
    exact attempted_startOr hrestore hsame rfl _

end Execution

end LineShell
