import LineShell.Proofs.Accounting
import LineShell.Proofs.ChildRuns
/-!
# Launching a plan

Running a plan in children has two parts. `Execution.launch` makes the children, up to the point
where the shell begins to wait; `Execution.waits` waits for those that were made. Nothing else is
done (`Execution.run_runPlan`), so that the world between the two is the one in which the programs
of the children begin. `Execution.Launching` lists what a launch comes to, and
`Execution.launching_launch` says that there is nothing else.

* `World.joined` is the world in which one child has been made (`Proc.run_fork_acted`).
* `Machine.Wrote` is what a write that succeeds does, and `Machine.Keeps` what all of them keep: no
  open description changes but for its position, and no pipe is made.
* `World.Enters` are the processes that programs have entered between two worlds.
-/

namespace LineShell

/-! ### The two parts -/

namespace Execution

/-- Makes one child and says in the log that it did. -/
def launchOne (body : Proc Fate) (record : Nat → Log.Record) :
    Proc (Except ShellError Unit × List Nat) := do
  match ← Proc.fork body with
  | .error e => return (.error (.fork e), [])
  | .ok pid =>
    Proc.log (record pid)
    return (.ok (), [pid])

/-- Makes the children of two stages over a pipe, and closes the pipe. -/
def launchStages (writer reader : List Text) (readEnd writeEnd : Nat) :
    Proc (Except ShellError Unit × List Nat) := do
  match ← Proc.fork (writerChild writer readEnd writeEnd) with
  | .error e =>
    closeEnds readEnd writeEnd
    return (.error (.fork e), [])
  | .ok writerPid =>
    match ← Proc.fork (readerChild reader readEnd writeEnd) with
    | .error e =>
      closeEnds readEnd writeEnd
      return (.error (.fork e), [writerPid])
    | .ok readerPid =>
      closeEnds readEnd writeEnd
      Proc.log ⟨.debug, source, Text.lit "pipeline spawned",
        [Log.Record.count "writer" writerPid, Log.Record.count "reader" readerPid]⟩
      return (.ok (), [writerPid, readerPid])

/-- What the log is told of the child of a simple command. -/
def simpleRecord (args : List Text) (pid : Nat) : Log.Record :=
  ⟨.debug, source, Text.lit "spawned",
    [Log.Record.count "pid" pid, Log.Record.field "command" (program args)]⟩

/-- What the log is told of a child with a target. -/
def redirectRecord (args : List Text) (target : Text) (mode : RedirectMode) (pid : Nat) :
    Log.Record :=
  ⟨.debug, source, Text.lit "spawned with redirection",
    [Log.Record.count "pid" pid, Log.Record.field "command" (program args),
      Log.Record.quoted "target" target, Log.Record.field "mode" (modeName mode)]⟩

/-- Makes the children of a plan. Gives the answer of the plan and the children to wait for. -/
def launch : Plan → Proc (Except ShellError Unit × List Nat)
  | .simple v =>
    match argv v with
    | .error e => return (.error e, [])
    | .ok args => launchOne (simpleChild args) (simpleRecord args)
  | .pipeline left right =>
    match argv left with
    | .error e => return (.error e, [])
    | .ok writer =>
      match argv right with
      | .error e => return (.error e, [])
      | .ok reader => do
        match ← Proc.pipe with
        | .error e => return (.error (.pipe e), [])
        | .ok (readEnd, writeEnd) => launchStages writer reader readEnd writeEnd
  | .redirect v target mode =>
    match argv v with
    | .error e => return (.error e, [])
    | .ok args =>
      match withoutNul target with
      | .error e => return (.error e, [])
      | .ok target => launchOne (redirectChild args target mode) (redirectRecord args target mode)

/-- Waits for children in their order, with interrupts ignored. -/
def waits (pids : List Nat) : Proc Unit :=
  if pids.isEmpty then pure () else Signals.guarded (pids.forM waitFor)

theorem waits_one (pid : Nat) : waits [pid] = Signals.guarded (waitFor pid) := rfl

theorem waits_two (pid pid' : Nat) :
    waits [pid, pid'] = Signals.guarded (do waitFor pid; waitFor pid') := rfl

/-- Making one child and waiting for it. -/
theorem run_launchOne (body : Proc Fate) (record : Nat → Log.Record) (w : World) :
    ((do
      match ← Proc.fork body with
      | .error e => return .error (.fork e)
      | .ok pid =>
        Proc.log (record pid)
        Signals.guarded (waitFor pid)
        return .ok () : Proc (Except ShellError Unit)).run w) =
      let launched := (launchOne body record).run w
      (launched.1.1, ((waits launched.1.2).run launched.2).2) := by
  unfold launchOne
  rw [run_bind, run_bind]
  rcases (Proc.fork body).run w with ⟨e | pid, u⟩
  · rfl
  · simp only [run_bind, Proc.run_log, run_pure, waits_one]

/-- **Running a plan is launching it and waiting.** -/
theorem run_runPlan (p : Plan) (w : World) :
    (Shell.runPlan p).run w =
      let launched := (launch p).run w
      (launched.1.1, ((waits launched.1.2).run launched.2).2) := by
  cases p with
  | simple v =>
    show (runSimple v).run w = _
    unfold runSimple launch
    dsimp only
    cases argv v with
    | error e => rfl
    | ok args => exact run_launchOne _ _ w
  | pipeline left right =>
    show (runPipeline left right).run w = _
    unfold runPipeline launch
    dsimp only
    cases argv left with
    | error e => rfl
    | ok writer =>
      cases argv right with
      | error e => rfl
      | ok reader =>
        rw [run_bind, run_bind]
        -- Both sides make the same calls up to the waits, which come last in each branch.
        rcases Proc.pipe.run w with ⟨e | ⟨readEnd, writeEnd⟩, u⟩
        · rfl
        · dsimp only
          unfold runStages launchStages
          rw [run_bind, run_bind]
          rcases (Proc.fork (writerChild writer readEnd writeEnd)).run u with ⟨e | writerPid, u⟩
          · rfl
          · dsimp only
            rw [run_bind, run_bind]
            rcases (Proc.fork (readerChild reader readEnd writeEnd)).run u with ⟨e | readerPid, u⟩
            · dsimp only
              simp only [run_bind, run_closeEnds, run_pure, waits_one]
            · dsimp only
              simp only [run_bind, run_closeEnds, Proc.run_log, run_pure, waits_two]
  | redirect v target mode =>
    show (runRedirect v target mode).run w = _
    unfold runRedirect launch
    dsimp only
    cases argv v with
    | error e => rfl
    | ok args =>
      dsimp only
      cases withoutNul target with
      | error e => rfl
      | ok target => exact run_launchOne _ _ w

end Execution

/-! ### Worlds with one child more -/

namespace World

/-- The world in which a child has been made, with its numbers and interrupts, after which the
machine is this one. -/
def joined (w : World) (fate : Fate) (t : DescriptorTable) (i : Interrupts) (m : Machine)
    (calls : List CallKind) (made : List Event) : World :=
  { w with
    machine := m
    children := w.children ++ [⟨{ w.asChild.self with descriptors := t, interrupts := i }, fate⟩]
    nextPid := w.nextPid + 1
    calls := calls
    trace := made ++ .forked w.nextPid :: w.trace }

end World

theorem Proc.run_fork_acted {w : World} (h : w.refusal .fork = none) {body : Proc Fate} {fate : Fate}
    {t : DescriptorTable} {i : Interrupts} {m : Machine} {calls : List CallKind}
    {made : List Event} (hbody : body.run w.asChild = (fate, w.asChild.acted t i m calls made)) :
    (Proc.fork body).run w = (.ok w.nextPid, w.joined fate t i m calls made) := by
  rw [run_fork_granted h, hbody]
  rfl

/-! ### What keeps its shape -/

/-- A description as it was when it was opened. -/
def Description.asOpened (d : Description) : Description := { d with offset := 0 }

namespace Machine

variable {m m' m'' : Machine}

/-- The same open descriptions but for their positions, and as many pipes. -/
structure Keeps (m m' : Machine) : Prop where
  descriptions : m'.descriptions.map Description.asOpened = m.descriptions.map Description.asOpened
  pipes : m'.pipes.length = m.pipes.length

theorem Keeps.refl (m : Machine) : Keeps m m := ⟨rfl, rfl⟩

theorem Keeps.trans (h : Keeps m m') (h' : Keeps m' m'') : Keeps m m'' :=
  ⟨h'.descriptions.trans h.descriptions, h'.pipes.trans h.pipes⟩

theorem Keeps.length (h : Keeps m m') : m'.descriptions.length = m.descriptions.length := by
  have hlength := congrArg List.length h.descriptions
  rwa [List.length_map, List.length_map] at hlength

theorem keeps_setOffset (m : Machine) (d offset : Nat) : Keeps m (m.setOffset d offset) := by
  refine ⟨List.ext_getElem? fun k => ?_, rfl⟩
  unfold setOffset
  rw [List.getElem?_map, List.getElem?_map, List.getElem?_modify]
  split
  · cases m.descriptions[k]? <;> rfl
  · cases m.descriptions[k]? <;> rfl

theorem keeps_writeNode (m : Machine) (i : Inode) (d : Nat) (desc : Description) (bytes : Bytes) :
    Keeps m (m.writeNode i d desc bytes) := by
  unfold writeNode
  split
  · rename_i content permissions _
    dsimp only
    have hsame : Keeps m { m with tree := m.tree.setKind i (.file (overwrite content
        (if desc.append then content.length else desc.offset) bytes)) } := ⟨rfl, rfl⟩
    exact hsame.trans (keeps_setOffset _ _ _)
  · exact .refl m

/-- **What a write that succeeds does**: it goes to the file, the pipe or the console that the
description leads to, or to a device or a terminal that keeps nothing. -/
inductive Wrote (m : Machine) (d : Nat) (bytes : Bytes) : Machine → Prop
  | node {desc : Description} {i : Inode} (hdesc : m.description? d = some desc)
      (hchannel : desc.channel = .node i) : Wrote m d bytes (m.writeNode i d desc bytes)
  | pipe {desc : Description} {p : Nat} {pipe : Pipe} (hdesc : m.description? d = some desc)
      (hchannel : desc.channel = .pipeWrite p) (hpipe : m.pipes[p]? = some pipe) :
      Wrote m d bytes (m.setPipe p { pipe with content := pipe.content.append (.finite bytes) })
  | out : Wrote m d bytes { m with out := m.out ++ bytes }
  | err : Wrote m d bytes { m with err := m.err ++ bytes }
  | lost : Wrote m d bytes m

theorem wrote_of_writeTo {d : Nat} {bytes : Bytes} (h : m.writeTo d bytes = .ok m') :
    Wrote m d bytes m' := by
  unfold writeTo at h
  cases hdesc : m.description? d with
  | none =>
    rw [hdesc] at h
    cases h
  | some desc =>
    rw [hdesc] at h
    dsimp only at h
    split at h
    · cases h
    cases hchannel : desc.channel with
    | node i =>
      rw [hchannel] at h
      cases h
      exact .node hdesc hchannel
    | device device =>
      rw [hchannel] at h
      cases device with
      | full => cases h
      | _ =>
        cases h
        exact .lost
    | pipeRead p =>
      rw [hchannel] at h
      cases h
    | pipeWrite p =>
      rw [hchannel] at h
      dsimp only at h
      cases hpipe : m.pipes[p]? with
      | none =>
        rw [hpipe] at h
        cases h
      | some pipe =>
        rw [hpipe] at h
        dsimp only at h
        -- Without a reader the pipe is broken, and the write has failed.
        split at h
        · cases h
          exact .pipe hdesc hchannel hpipe
        · cases h
    | console c =>
      rw [hchannel] at h
      cases c with
      | out =>
        cases h
        exact .out
      | err =>
        cases h
        exact .err
    | terminal =>
      rw [hchannel] at h
      cases h
      exact .lost

theorem keeps_writeTo {d : Nat} {bytes : Bytes} (h : m.writeTo d bytes = .ok m') : Keeps m m' := by
  cases wrote_of_writeTo h with
  | node => exact keeps_writeNode _ _ _ _ _
  | pipe => exact ⟨rfl, List.length_set⟩
  | out | err => exact ⟨rfl, rfl⟩
  | lost => exact .refl m

/-- A write keeps the shape of the machine. -/
theorem keeps_written (t : DescriptorTable) (fd : Nat) (bytes : Bytes) (m : Machine) :
    Keeps m (m.written t fd bytes) := by
  rcases written_cases t fd bytes m with hlost | ⟨handle, -, hwrite⟩
  · rw [hlost]
    exact .refl m
  · exact keeps_writeTo hwrite

theorem keeps_foldl_noted (log : Option Log.Sink) (t : DescriptorTable) (records : List Log.Record)
    (m : Machine) : Keeps m (records.foldl (noted log t) m) :=
  foldl_noted_of_written (P := Keeps m)
    (fun _ _ m' bytes h => h.trans (keeps_written t _ bytes m')) records (.refl m)

/-- What a number of a description was opened as. -/
def opened? (m : Machine) (d : Nat) : Option Description :=
  (m.description? d).map Description.asOpened

theorem Keeps.opened? (h : Keeps m m') (d : Nat) : m'.opened? d = m.opened? d := by
  have hget := congrArg (·[d]?) h.descriptions
  simp only [List.getElem?_map] at hget
  exact hget

theorem opened?_of_append {more : List Description}
    (h : m'.descriptions = m.descriptions ++ more) {d : Nat} (hd : d < m.descriptions.length) :
    m'.opened? d = m.opened? d := by
  unfold opened? description?
  rw [h, List.getElem?_append_left hd]

/-- Where an open description leads. -/
def channel? (m : Machine) (d : Nat) : Option Channel := (m.description? d).map Description.channel

theorem channel?_eq (m : Machine) (d : Nat) :
    m.channel? d = (m.opened? d).map Description.channel := by
  unfold channel? opened?
  cases m.description? d <;> rfl

theorem Keeps.channel? (h : Keeps m m') (d : Nat) : m'.channel? d = m.channel? d := by
  rw [channel?_eq, channel?_eq, h.opened?]

end Machine

/-! ### Pipes below the limit -/

theorem Call.readEnd_lt_limit {c c' : Context} {readEnd writeEnd : Nat}
    (h : pipe.run c = (.ok (readEnd, writeEnd), c')) : readEnd < c.self.limit := by
  rw [run_pipe] at h
  dsimp only at h
  rcases Nat.lt_or_ge c.self.descriptors.lowestFree c.self.limit with hlimit | hlimit
  · rw [run_allocate_free (c := { c with machine := c.machine.withPipe }) hlimit] at h
    dsimp only at h
    split at h
    · cases h
    · cases h
      exact hlimit
  · rw [run_allocate_full (c := { c with machine := c.machine.withPipe }) hlimit] at h
    cases h

theorem Proc.readEnd_lt_limit {w v : World} {readEnd writeEnd : Nat}
    (h : Proc.pipe.run w = (.ok (readEnd, writeEnd), v)) : readEnd < w.self.limit := by
  unfold Proc.pipe at h
  rw [run_bind] at h
  have hanswer := congrArg Prod.fst h
  cases hrefusal : w.refusal .pipe with
  | some e =>
    rw [run_attempt_refused hrefusal] at hanswer
    cases hanswer
  | none =>
    rw [run_attempt_granted hrefusal, run_call] at hanswer
    exact Call.readEnd_lt_limit (c := w.toContext) (Prod.ext hanswer rfl)

/-! ### Children that join -/

/-- The process that a program has entered, with the program, while it runs. -/
def Child.entered? (c : Child) : Option (Nat × Image) :=
  match c.fate with
  | .running image => some (c.process.pid, image)
  | .ended _ => none

namespace World

variable {u v w : World} {entered entered' : List (Nat × Image)}

/-- The processes that programs have entered between two worlds, with the programs, the first one
first. -/
def Enters (entered : List (Nat × Image)) (w v : World) : Prop :=
  ∃ made, v.trace = made ++ w.trace ∧ made.reverse.filterMap Event.entered? = entered

theorem Enters.of_trace (h : v.trace = w.trace) : Enters [] w v := ⟨[], h, rfl⟩

theorem Enters.of_made {made : List Event} (htrace : v.trace = made ++ w.trace)
    (hmade : made.filterMap Event.entered? = entered) : Enters entered.reverse w v :=
  ⟨made, htrace, by rw [List.filterMap_reverse, hmade]⟩

theorem Enters.trans (h : Enters entered u v) (h' : Enters entered' v w) :
    Enters (entered ++ entered') u w := by
  obtain ⟨made, htrace, rfl⟩ := h
  obtain ⟨made', htrace', rfl⟩ := h'
  refine ⟨made' ++ made, ?_, ?_⟩
  · rw [htrace', htrace, List.append_assoc]
  · rw [List.reverse_append, List.filterMap_append]

/-- Making a pipe enters nothing. -/
theorem enters_withPipe (w : World) (readEnd writeEnd : Nat) :
    w.Enters [] (w.withPipe readEnd writeEnd) :=
  ⟨[.piped (.ok (readEnd, writeEnd))], rfl, rfl⟩

/-- Waiting enters nothing. -/
theorem Waited.enters {pids : List Nat} (h : Waited pids u v) : u.Enters [] v := by
  obtain ⟨made, htrace, -, hmade⟩ := h.trace
  have hnone : made.filterMap Event.entered? = [] := by
    refine List.filterMap_eq_nil_iff.2 fun e he => ?_
    obtain ⟨pid, children, machine, rfl⟩ := hmade e he
    rfl
  exact .of_made htrace hnone

end World

/-- There is one child more: it runs with these numbers or has ended, on a machine that has the
shape of this one. -/
structure World.Joins (t : DescriptorTable) (m : Machine) (child : Child) (w v : World) : Prop where
  self : v.self = w.self
  children : v.children = w.children ++ [child]
  nextPid : v.nextPid = w.nextPid + 1
  pid : child.process.pid = w.nextPid
  machine : m.Keeps v.machine
  table : World.isRunning child = true → child.process.descriptors = t
  enters : w.Enters child.entered?.toList v

namespace Execution

variable {args : List Text} {diagnostic : Text} {t : DescriptorTable} {m : Machine} {w : World}

/-- A child that has tried to start its program joins the others. -/
theorem joins_joined {fate : Fate} {t' : DescriptorTable} {m' : Machine} {made : List Event}
    (h : Standing w.asChild args diagnostic t m fate t' m' made) (i : Interrupts)
    (calls : List CallKind) :
    w.Joins t m ⟨{ w.asChild.self with descriptors := t', interrupts := i }, fate⟩
      (w.joined fate t' i m' calls made) := by
  have hforked : (made ++ [Event.forked w.nextPid]).filterMap Event.entered? =
      made.filterMap Event.entered? := by
    rw [List.filterMap_append]
    exact List.append_nil _
  have htrace : made ++ .forked w.nextPid :: w.trace =
      (made ++ [.forked w.nextPid]) ++ w.trace := List.append_cons _ _ _
  cases h with
  | running hmade =>
    exact ⟨rfl, rfl, rfl, rfl, .refl _, fun _ => rfl, .of_made htrace (hforked.trans hmade)⟩
  | ended hout hmade =>
    exact ⟨rfl, rfl, rfl, rfl, Machine.keeps_written _ _ _ _, (fun h => nomatch h),
      .of_made htrace (hforked.trans hmade)⟩

/-- One child more, of these arguments, has tried to start its program with these numbers and on this
machine. -/
def Forks (args : List Text) (diagnostic : Text) (t : DescriptorTable) (m : Machine) (child : Child)
    (w v : World) : Prop :=
  ∃ fate t' i m' calls made, Standing w.asChild args diagnostic t m fate t' m' made ∧
    child = ⟨{ w.asChild.self with descriptors := t', interrupts := i }, fate⟩ ∧
    v = w.joined fate t' i m' calls made

theorem Forks.joins {child : Child} {v : World} (h : Forks args diagnostic t m child w v) :
    w.Joins t m child v := by
  obtain ⟨fate, t', i, m', calls, made, hstanding, rfl, rfl⟩ := h
  exact joins_joined hstanding i calls

theorem forks_fork (h : w.refusal .fork = none) {body : Proc Fate}
    (hbody : Attempted w.asChild args diagnostic t m (body.run w.asChild)) :
    ∃ child v, (Proc.fork body).run w = (.ok w.nextPid, v) ∧
      Forks args diagnostic t m child w v := by
  obtain ⟨fate, t', i, m', calls, made, hstanding, hr⟩ := hbody
  exact ⟨_, _, Proc.run_fork_acted h hr, fate, t', i, m', calls, made, hstanding, rfl, rfl⟩

/-! ### What a launch comes to -/

/-- What launching a plan comes to: the answer, the children to wait for, and the world before the
first wait. -/
inductive Launching (w : World) : Plan → (Except ShellError Unit × List Nat) × World → Prop
  /-- There is no child, and nothing has been opened. -/
  | unforked {p : Plan} (e : ShellError) {v : World} (hself : v.self = w.self)
      (hmachine : v.machine = w.machine) (hchildren : v.children = w.children)
      (hnext : v.nextPid = w.nextPid) (henters : w.Enters [] v) :
      Launching w p ((.error e, []), v)
  | simple {v : ArgVector} {args : List Text} (hargs : argv v = .ok args) {child : Child}
      {u : World}
      (hchild : Forks args (simpleDiagnostic args) w.self.descriptors.atExec w.machine child w u)
      (records : List Log.Record) :
      Launching w (.simple v) ((.ok (), [w.nextPid]), u.noting records)
  /-- There is a pipe, but no child. -/
  | unused {left right : ArgVector} (e : Errno) {readEnd writeEnd : Nat}
      (hfree : w.self.descriptors.FreeFor readEnd writeEnd) :
      Launching w (.pipeline left right) ((.error (.fork e), []),
        ((w.withPipe readEnd writeEnd).counting .fork).closing readEnd writeEnd)
  /-- There is only the first stage. -/
  | half {left right : ArgVector} {writer : List Text} (hleft : argv left = .ok writer) (e : Errno)
      {readEnd writeEnd : Nat} (hfree : w.self.descriptors.FreeFor readEnd writeEnd) {child : Child}
      {u : World}
      (hwriter : Forks writer (stageDiagnostic 1 writer)
        (DescriptorTable.atExec (Table.put stdout ⟨w.machine.descriptions.length + 1, false⟩
          w.self.descriptors)) w.machine.withPipe child (w.withPipe readEnd writeEnd) u) :
      Launching w (.pipeline left right) ((.error (.fork e), [w.nextPid]),
        (u.counting .fork).closing readEnd writeEnd)
  | whole {left right : ArgVector} {writer reader : List Text} (hleft : argv left = .ok writer)
      (hright : argv right = .ok reader) {readEnd writeEnd : Nat}
      (hfree : w.self.descriptors.FreeFor readEnd writeEnd) {child child' : Child} {u x : World}
      (hwriter : Forks writer (stageDiagnostic 1 writer)
        (DescriptorTable.atExec (Table.put stdout ⟨w.machine.descriptions.length + 1, false⟩
          w.self.descriptors)) w.machine.withPipe child (w.withPipe readEnd writeEnd) u)
      (hreader : Forks reader (stageDiagnostic 2 reader)
        (DescriptorTable.atExec (Table.put stdin ⟨w.machine.descriptions.length, false⟩
          w.self.descriptors)) u.machine child' u x)
      (records : List Log.Record) :
      Launching w (.pipeline left right) ((.ok (), [w.nextPid, w.nextPid + 1]),
        (x.closing readEnd writeEnd).noting records)
  /-- The target is not opened, and the child has ended with a report on the output of the shell. -/
  | untargeted {v : ArgVector} {args : List Text} {target : Text} {mode : RedirectMode}
      {child : Child} {u : World}
      (hchild : Forks args (openDiagnostic target)
        (DescriptorTable.atExec (Table.put stdout ⟨w.machine.descriptions.length, false⟩
          w.self.descriptors)) w.machine child w u)
      (hended : World.isRunning child = false)
      (hopened : ∃ made e, u.trace = made ++ w.trace ∧ .opened target.bytes (.error e) ∈ made)
      (records : List Log.Record) :
      Launching w (.redirect v target mode) ((.ok (), [w.nextPid]), u.noting records)
  /-- The target is opened by the child, which is where the shell is. -/
  | targeted {v : ArgVector} {args : List Text} (hargs : argv v = .ok args) {target : Text}
      {mode : RedirectMode} {self : Process} {tree : FileTree} {channel : Channel}
      (hself : self.directory = w.self.directory)
      (hopen : Call.openPath ⟨self, w.machine⟩ target.bytes (openMode mode) = .ok (tree, channel))
      {child : Child} {u : World}
      (hchild : Forks args (redirectDiagnostic args)
        (DescriptorTable.atExec (Table.put stdout ⟨w.machine.descriptions.length, false⟩
          w.self.descriptors))
        (w.machine.opening tree ⟨channel, 0, (openMode mode).append, false, true⟩) child w u)
      (records : List Log.Record) :
      Launching w (.redirect v target mode) ((.ok (), [w.nextPid]), u.noting records)

theorem withoutNul_eq {t t' : Text} (h : withoutNul t = .ok t') : t' = t := by
  unfold withoutNul at h
  split at h
  · cases h
  · exact (Except.ok.inj h).symm

theorem launchOne_refused {e : Errno} (h : w.refusal .fork = some e) (body : Proc Fate)
    (record : Nat → Log.Record) :
    (launchOne body record).run w = ((.error (.fork e), []), w.counting .fork) := by
  unfold launchOne
  rw [run_bind, Proc.run_fork_refused h]
  rfl

theorem launchOne_granted {body : Proc Fate} {pid : Nat} {u : World}
    (h : (Proc.fork body).run w = (.ok pid, u)) (record : Nat → Log.Record) :
    (launchOne body record).run w = ((.ok (), [pid]), u.noting [record pid]) := by
  unfold launchOne
  rw [run_bind, h]
  dsimp only
  rw [run_bind, Proc.run_log]
  rfl

theorem Launching.of_error (p : Plan) (e : ShellError) : Launching w p ((.error e, []), w) :=
  .unforked e rfl rfl rfl rfl (.of_trace rfl)

theorem launching_simple (v : ArgVector) : Launching w (.simple v) ((launch (.simple v)).run w) := by
  unfold launch
  dsimp only
  cases hargs : argv v with
  | error e => exact .of_error _ e
  | ok args =>
    dsimp only
    cases hrefusal : w.refusal .fork with
    | some e =>
      rw [launchOne_refused hrefusal]
      exact .unforked _ rfl rfl rfl rfl (.of_trace rfl)
    | none =>
      obtain ⟨child, u, hrun, hchild⟩ :=
        forks_fork hrefusal (attempted_simpleChild w.asChild args)
      rw [launchOne_granted hrun]
      exact .simple hargs hchild _

theorem launching_redirect {output : Handle}
    (hout : Table.get? stdout w.self.descriptors = some output) (v : ArgVector) (target : Text)
    (mode : RedirectMode) :
    Launching w (.redirect v target mode) ((launch (.redirect v target mode)).run w) := by
  unfold launch
  dsimp only
  cases hargs : argv v with
  | error e => exact .of_error _ e
  | ok args =>
    dsimp only
    cases htarget : withoutNul target with
    | error e => exact .of_error _ e
    | ok target' =>
      obtain rfl := withoutNul_eq htarget
      dsimp only
      cases hrefusal : w.refusal .fork with
      | some e =>
        rw [launchOne_refused hrefusal]
        exact .unforked _ rfl rfl rfl rfl (.of_trace rfl)
      | none =>
        generalize hr : (redirectChild args target' mode).run w.asChild = r
        have hredirected := redirected_redirectChild (u := w.asChild) hout args target' mode
        rw [hr] at hredirected
        cases hredirected with
        | @unopened t' i calls made hsame hmade hopened =>
          obtain ⟨e, hopened⟩ := hopened
          -- The target did not open: the child has reported and ended before any program.
          have hstanding : Standing w.asChild args (openDiagnostic target')
              (DescriptorTable.atExec (Table.put stdout ⟨w.machine.descriptions.length, false⟩
                w.self.descriptors)) w.machine (.ended (.exited 0)) t' _ made :=
            .ended (fun _ => hsame) hmade
          have htrace : made ++ .forked w.nextPid :: w.trace =
              (made ++ [.forked w.nextPid]) ++ w.trace := List.append_cons _ _ _
          rw [launchOne_granted (Proc.run_fork_acted hrefusal hr)]
          exact .untargeted ⟨_, t', i, _, calls, made, hstanding, rfl, rfl⟩ rfl
            ⟨_, e, htrace, List.mem_append_left _ hopened⟩ _
        | @opened t' i tree channel r hopen hattempted =>
          rw [← hr] at hattempted
          obtain ⟨child, u, hrun, hchild⟩ := forks_fork hrefusal hattempted
          have hself : (w.asChild.seeing t' i w.asChild.machine).self.directory =
              w.self.directory := rfl
          rw [launchOne_granted hrun]
          exact .targeted hargs hself hopen hchild _

/-- Two stages over a pipe that has been made. -/
theorem launching_stages {left right : ArgVector} {writer reader : List Text}
    (hleft : argv left = .ok writer) (hright : argv right = .ok reader) {readEnd writeEnd : Nat}
    {input output : Handle} (hfree : w.self.descriptors.FreeFor readEnd writeEnd)
    (hlimit : readEnd < w.self.limit) (hin : Table.get? stdin w.self.descriptors = some input)
    (hout : Table.get? stdout w.self.descriptors = some output) :
    Launching w (.pipeline left right)
      ((launchStages writer reader readEnd writeEnd).run (w.withPipe readEnd writeEnd)) := by
  unfold launchStages
  rw [run_bind]
  cases hfirst : (w.withPipe readEnd writeEnd).refusal .fork with
  | some e =>
    rw [Proc.run_fork_refused hfirst]
    exact .unused e hfree
  | none =>
    obtain ⟨child, u, hrun, hwriter⟩ := forks_fork hfirst
      (attempted_writerChild (u := (w.withPipe readEnd writeEnd).asChild) rfl hfree hlimit hout
        writer)
    rw [hrun]
    dsimp only
    rw [run_bind]
    cases hsecond : u.refusal .fork with
    | some e =>
      rw [Proc.run_fork_refused hsecond]
      exact .half hleft e hfree hwriter
    | none =>
      -- The first fork leaves the shell as it was, but for the number of the next child.
      have hself : u.self = (w.withPipe readEnd writeEnd).self := hwriter.joins.self
      have hnext : u.nextPid = w.nextPid + 1 := hwriter.joins.nextPid
      obtain ⟨child', x, hrun', hreader⟩ := forks_fork hsecond
        (attempted_readerChild (u := u.asChild) (congrArg Process.descriptors hself) hfree hin hout
          reader)
      rw [hrun']
      dsimp only
      rw [run_bind, run_closeEnds, run_bind, Proc.run_log, hnext]
      exact .whole hleft hright hfree hwriter hreader _

theorem launching_pipeline {input output : Handle}
    (hin : Table.get? stdin w.self.descriptors = some input)
    (hout : Table.get? stdout w.self.descriptors = some output) (left right : ArgVector) :
    Launching w (.pipeline left right) ((launch (.pipeline left right)).run w) := by
  unfold launch
  dsimp only
  cases hleft : argv left with
  | error e => exact .of_error _ e
  | ok writer =>
    dsimp only
    cases hright : argv right with
    | error e => exact .of_error _ e
    | ok reader =>
      dsimp only
      rw [run_bind]
      rcases Proc.pipe_cases w with ⟨e, hpipe⟩ | ⟨readEnd, writeEnd, hfree, hpipe⟩
      · rw [hpipe]
        exact .unforked _ rfl rfl rfl rfl ⟨[.piped (.error e)], rfl, rfl⟩
      · have hlimit := Proc.readEnd_lt_limit hpipe
        rw [hpipe]
        exact launching_stages hleft hright hfree hlimit hin hout

/-- **A launch comes to one of these.** -/
theorem launching_launch (p : Plan) {input output : Handle}
    (hin : Table.get? stdin w.self.descriptors = some input)
    (hout : Table.get? stdout w.self.descriptors = some output) :
    Launching w p ((launch p).run w) := by
  cases p with
  | simple v => exact launching_simple v
  | pipeline left right => exact launching_pipeline hin hout left right
  | redirect v target mode => exact launching_redirect hout v target mode

/-! ### The waits -/

open World

theorem waited_forM (pids : List Nat) (w : World) :
    Waited pids w ((pids.forM waitFor).run w).2 := by
  induction pids generalizing w with
  | nil => exact .refl w
  | cons pid pids ih =>
    show Waited ([pid] ++ pids) w ((waitFor pid >>= fun _ => pids.forM waitFor).run w).2
    rw [run_bind]
    exact (waited_waitFor pid w).trans (ih _)

/-- No program starts in a process while the shell waits. -/
theorem enters_waits (pids : List Nat) (w : World) : w.Enters [] ((waits pids).run w).2 := by
  unfold waits
  split
  · exact .of_trace rfl
  · obtain ⟨before, after, hrun⟩ := Signals.run_guarded (pids.forM waitFor) w
    rw [hrun]
    have henters := (waited_forM pids
      (w.altered (w.installed .ignoring) before (.signalAction :: w.calls))).enters
    exact henters

end Execution

end LineShell
