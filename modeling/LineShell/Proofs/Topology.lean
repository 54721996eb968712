import LineShell.Proofs.LaunchedChildren
/-!
# Who holds what

The open descriptions that a line makes are the ends of its pipe, or its target. While the shell
waits, each of them is behind one number of one child: `World.Launched` says which, and that a
program begins with the numbers of the shell but for that one.

`World.numbersOf` lists the numbers behind which a channel is. A pipe has a reader exactly as long
as the list of its read end is not empty (`World.hasReader_withReaders`).

All this takes numbers that lead to open descriptions, and those to pipes that are there:
`World.Sound`, which holds at the start (`World.sound_start`). The headline is
`Shell.exec_topology`.
-/

namespace LineShell

/-! ### Numbers for a channel -/

/-- The numbers of a process behind which a channel is, with the process. -/
def Process.numbersOf (m : Machine) (channel : Channel) (p : Process) : List (Nat × Nat) :=
  p.descriptors.filterMap fun e =>
    if m.channel? e.2.description = some channel then some (p.pid, e.1) else none

namespace World

variable {w v : World}

/-- The open numbers behind which a channel is, each with its process. -/
def numbersOf (channel : Channel) (w : World) : List (Nat × Nat) :=
  w.holders.flatMap (Process.numbersOf w.machine channel)

theorem any_isSome_eq {α β : Type} (f : α → Option β) (l : List α) :
    l.any (fun a => (f a).isSome) = !(l.filterMap f).isEmpty := by
  induction l with
  | nil => rfl
  | cons a l ih =>
    rw [List.any_cons, ih, List.filterMap_cons]
    cases f a <;> rfl

theorem holdsReader_eq (m : Machine) (p : Nat) (process : Process) :
    holdsReader m p process = !(process.numbersOf m (.pipeRead p)).isEmpty := by
  unfold holdsReader Process.numbersOf
  rw [← any_isSome_eq]
  refine congrArg (List.any _) (funext fun e => ?_)
  unfold Machine.channel?
  cases m.description? e.2.description with
  | none => rfl
  | some d =>
    dsimp only [Option.map_some]
    by_cases hchannel : d.channel = .pipeRead p
    · rw [if_pos (congrArg some hchannel), beq_iff_eq.2 hchannel]
      rfl
    · rw [if_neg fun h => hchannel (Option.some.inj h), beq_false_of_ne hchannel]
      rfl

/-- **A pipe has a reader** exactly as long as there is a number for its read end. -/
theorem hasReader_withReaders (w : World) (p : Nat) :
    (w.withReaders.pipes[p]?).map Pipe.hasReader =
      (w.machine.pipes[p]?).map fun _ => !(w.numbersOf (.pipeRead p)).isEmpty := by
  have hany : w.holders.any (holdsReader w.machine p) =
      !(w.numbersOf (.pipeRead p)).isEmpty := by
    unfold numbersOf
    generalize w.holders = processes
    induction processes with
    | nil => rfl
    | cons process processes ih =>
      rw [List.any_cons, ih, holdsReader_eq, List.flatMap_cons]
      cases Process.numbersOf w.machine (.pipeRead p) process <;> rfl
  unfold withReaders
  rw [List.getElem?_mapIdx, Option.map_map]
  cases w.machine.pipes[p]? with
  | none => rfl
  | some pipe => exact congrArg some hany

/-! ### Sound worlds -/

/-- Open numbers lead to open descriptions, and those that lead to a pipe to one that is there. -/
structure Sound (w : World) : Prop where
  handles : ∀ p ∈ w.holders, ∀ e ∈ p.descriptors,
    e.2.description < w.machine.descriptions.length
  pipes : ∀ d p, w.machine.channel? d = some (.pipeRead p) ∨
    w.machine.channel? d = some (.pipeWrite p) → p < w.machine.pipes.length

/-- So do those of the shell. -/
theorem Sound.self (h : w.Sound) :
    ∀ e ∈ w.self.descriptors, e.2.description < w.machine.descriptions.length :=
  h.handles w.self List.mem_cons_self

theorem sound_start (t : FileTree) (directory : Inode) (env : Environment)
    (directories : Directories) (userland : Userland) (input : Input) :
    (start t directory env directories userland input).Sound := by
  -- A world starts with three descriptions, and none of them is the end of a pipe.
  have hnone : ∀ desc ∈ (start t directory env directories userland input).machine.descriptions,
      ∀ p,
      ¬(desc.channel = .pipeRead p ∨ desc.channel = .pipeWrite p) := by
    intro desc hdesc p
    cases input <;>
      (have hdesc := hdesc
       simp only [start, List.mem_cons, List.not_mem_nil, or_false] at hdesc
       rcases hdesc with rfl | rfl | rfl <;> simp)
  refine ⟨fun p hp e he => ?_, fun d p h => ?_⟩
  · obtain rfl := List.mem_singleton.1 hp
    show e.2.description < 3
    have he : e ∈ [(0, (⟨0, false⟩ : Handle)), (1, ⟨1, false⟩), (2, ⟨2, false⟩)] := he
    simp only [List.mem_cons, List.not_mem_nil, or_false] at he
    rcases he with rfl | rfl | rfl <;> decide
  · unfold Machine.channel? Machine.description? at h
    cases hdesc : (start t directory env directories userland input).machine.descriptions[d]? with
    | none =>
      rw [hdesc] at h
      simp at h
    | some desc =>
      rw [hdesc] at h
      have hmem := List.mem_of_getElem? hdesc
      exact absurd (h.imp Option.some.inj Option.some.inj) (hnone desc hmem p)

theorem Sound.noting (h : w.Sound) (records : List Log.Record) : (w.noting records).Sound := by
  have hkeeps := Machine.keeps_foldl_noted w.log w.self.descriptors records w.machine
  refine ⟨fun p hp e he => ?_, fun d p hchannel => ?_⟩
  · have hlt := h.handles p hp e he
    rwa [← hkeeps.length] at hlt
  · have hlt := h.pipes d p
    rw [← hkeeps.channel? d, ← hkeeps.pipes] at hlt
    exact hlt hchannel

end World

/-! ### Numbers of one process -/

namespace Process

variable {m : Machine} {channel : Channel} {p : Process}

theorem numbersOf_eq_nil (h : ∀ e ∈ p.descriptors, m.channel? e.2.description ≠ some channel) :
    p.numbersOf m channel = [] :=
  List.filterMap_eq_nil_iff.2 fun e he => if_neg (h e he)

/-- Where no number leads to a channel but the one that is put in, that one counts alone. -/
theorem numbersOf_put {t : DescriptorTable} {fd : Nat} {handle : Handle}
    (hp : p.descriptors = DescriptorTable.atExec (Table.put fd handle t))
    (hstays : handle.closeOnExec = false)
    (ht : ∀ e ∈ t, m.channel? e.2.description ≠ some channel) :
    p.numbersOf m channel =
      if m.channel? handle.description = some channel then [(p.pid, fd)] else [] := by
  unfold numbersOf DescriptorTable.atExec at *
  rw [hp, List.filterMap_filter, Table.filterMap_put fun e he => ?_]
  · rw [hstays, if_pos Bool.not_false]
    split <;> rfl
  · rw [if_neg (ht e he)]
    split <;> rfl

theorem filter_numbersOf (m : Machine) (channel : Channel) (p : Process) (pid : Nat) :
    (p.numbersOf m channel).filter (fun e => e.1 != pid) =
      if p.pid = pid then [] else p.numbersOf m channel := by
  have hpid : ∀ e ∈ p.numbersOf m channel, e.1 = p.pid := by
    intro e he
    obtain ⟨_, _, h⟩ := List.mem_filterMap.1 he
    split at h
    · rw [← Option.some.inj h]
    · cases h
  split
  · rename_i h
    refine List.filter_eq_nil_iff.2 fun e he => ?_
    simp [hpid e he, h]
  · rename_i h
    refine List.filter_eq_self.2 fun e he => ?_
    simp [hpid e he, h]

end Process

namespace World

variable {w v : World} {p : Plan} {new : List Child} {channel : Channel}

/-- A child that is gone takes its numbers with it. -/
theorem numbersOf_dropChild (h : w.self.numbersOf w.machine channel = []) (pid : Nat) :
    (w.dropChild pid).numbersOf channel = (w.numbersOf channel).filter (fun e => e.1 != pid) := by
  -- By induction on the children: the one that is dropped is the one whose numbers go.
  have hchildren : ∀ children : List Child,
      (((children.filter fun c => c.process.pid != pid).filter isRunning).map
        Child.process).flatMap (Process.numbersOf w.machine channel) =
      (((children.filter isRunning).map Child.process).flatMap
        (Process.numbersOf w.machine channel)).filter (fun e => e.1 != pid) := by
    intro children
    rw [List.filter_filter]
    induction children with
    | nil => rfl
    | cons c children ih =>
      rw [List.filter_cons, List.filter_cons]
      cases hrunning : isRunning c with
      | false => exact ih
      | true =>
        rw [if_pos rfl, List.map_cons, List.flatMap_cons, List.filter_append,
          Process.filter_numbersOf, ← ih]
        by_cases hpid : c.process.pid = pid
        · rw [if_pos hpid, if_neg (by simp [hpid])]
          rfl
        · rw [if_neg hpid, if_pos (by simp [hpid])]
          rfl
  show Process.numbersOf w.machine channel w.self ++ _ =
    (Process.numbersOf w.machine channel w.self ++ _).filter _
  rw [h]
  exact hchildren w.children

/-! ### What a line opens -/

/-- What was open before is still what it was. -/
theorem Launched.opened? (h : Launched p new w v) {d : Nat}
    (hd : d < w.machine.descriptions.length) : v.machine.opened? d = w.machine.opened? d := by
  obtain ⟨m, hopens, hkeeps⟩ := h.machine
  rw [hkeeps.opened?]
  cases hopens with
  | simple | unpiped | untargeted => rfl
  | piped => exact Machine.opened?_of_append (List.append_assoc _ _ _) hd
  | targeted => exact Machine.opened?_of_append rfl hd

theorem Launched.channel? (h : Launched p new w v) {d : Nat}
    (hd : d < w.machine.descriptions.length) : v.machine.channel? d = w.machine.channel? d := by
  rw [Machine.channel?_eq, Machine.channel?_eq, h.opened? hd]

theorem replacement?_stays {d i fd : Nat} {handle : Handle}
    (h : p.replacement? d i = some (fd, handle)) : handle.closeOnExec = false := by
  cases p with
  | simple => cases h
  | pipeline =>
    cases i <;> (cases h; rfl)
  | redirect =>
    cases h
    rfl

/-- The processes that hold numbers are those from before and the children that run. -/
theorem Launched.holders (h : Launched p new w v) :
    v.holders = w.holders ++ (new.filter isRunning).map Child.process := by
  unfold World.holders
  rw [h.self, h.children, List.filter_append, List.map_append]
  rfl

/-- **Numbers for what is new** are those that a stage replaces. -/
theorem Launched.only (h : Launched p new w v) (hsound : w.Sound) :
    ∀ process ∈ v.holders, ∀ e ∈ process.descriptors,
      w.machine.descriptions.length ≤ e.2.description →
        ∃ i child, new[i]? = some child ∧ isRunning child = true ∧ process = child.process ∧
          p.replacement? w.machine.descriptions.length i = some e := by
  intro process hprocess e he hnew
  rw [h.holders] at hprocess
  rcases List.mem_append.1 hprocess with hold | hchild
  · exact absurd (hsound.handles process hold e he) (Nat.not_lt.2 hnew)
  -- A number of a child is one of the shell, or the one that its stage replaces.
  · obtain ⟨child, hmem, rfl⟩ := List.mem_map.1 hchild
    obtain ⟨hmem, hrunning⟩ := List.mem_filter.1 hmem
    obtain ⟨i, hi⟩ := List.getElem?_of_mem hmem
    refine ⟨i, child, hi, hrunning, rfl, ?_⟩
    rw [h.tables i child hi hrunning] at he
    have he := (List.mem_filter.1 he).1
    unfold Plan.table at he
    cases hreplacement : p.replacement? w.machine.descriptions.length i with
    | none =>
      rw [hreplacement] at he
      exact absurd (hsound.self e he) (Nat.not_lt.2 hnew)
    | some put =>
      rw [hreplacement] at he
      rcases Table.mem_of_mem_put he with rfl | he
      · rfl
      · exact absurd (hsound.self e he) (Nat.not_lt.2 hnew)

/-- The numbers for a channel that was nowhere before are numbers of the new children. -/
theorem Launched.numbersOf (h : Launched p new w v) (hsound : w.Sound)
    (hchannel : ∀ d, w.machine.channel? d ≠ some channel) :
    v.numbersOf channel = (new.filter isRunning).flatMap fun child =>
      child.process.numbersOf v.machine channel := by
  unfold World.numbersOf
  rw [h.holders, List.flatMap_append, List.flatMap_map]
  have hold : w.holders.flatMap (Process.numbersOf v.machine channel) = [] := by
    refine List.flatMap_eq_nil_iff.2 fun process hprocess => Process.numbersOf_eq_nil fun e he => ?_
    rw [h.channel? (hsound.handles process hprocess e he)]
    exact hchannel _
  rw [hold]
  rfl

/-- A new child has one at most, which is the one that its stage replaces. -/
theorem Launched.numbersOf_child (h : Launched p new w v) (hsound : w.Sound)
    (hchannel : ∀ d, w.machine.channel? d ≠ some channel) {i fd : Nat} {handle : Handle}
    {child : Child} (hi : new[i]? = some child) (hrunning : isRunning child = true)
    (hreplacement : p.replacement? w.machine.descriptions.length i = some (fd, handle)) :
    child.process.numbersOf v.machine channel =
      if v.machine.channel? handle.description = some channel then [(child.process.pid, fd)]
      else [] := by
  have htable := h.tables i child hi hrunning
  unfold Plan.table at htable
  rw [hreplacement] at htable
  refine Process.numbersOf_put htable (replacement?_stays hreplacement) fun e he => ?_
  rw [h.channel? (hsound.self e he)]
  exact hchannel _

/-! ### The ends of a pipe -/

/-- The first and the second of some children, of those that run. -/
theorem flatMap_running {β : Type} (hcount : new.length ≤ 2) (f : Child → List β) :
    (new.filter isRunning).flatMap f =
      (new[0]?.filter isRunning).toList.flatMap f ++
        (new[1]?.filter isRunning).toList.flatMap f := by
  have hone : ∀ c : Child, ([c].filter isRunning).flatMap f =
      ((some c).filter isRunning).toList.flatMap f := by
    intro c
    cases hrunning : isRunning c <;> simp [hrunning, Option.filter]
  rcases new with _ | ⟨a, _ | ⟨b, _ | ⟨c, new⟩⟩⟩
  · rfl
  · exact (hone a).trans (List.append_nil _).symm
  · rw [show [a, b] = [a] ++ [b] from rfl, List.filter_append, List.flatMap_append, hone a, hone b]
    rfl
  · simp at hcount

theorem channel?_withPipe (m : Machine) :
    m.withPipe.channel? m.descriptions.length = some (.pipeRead m.pipes.length) ∧
      m.withPipe.channel? (m.descriptions.length + 1) = some (.pipeWrite m.pipes.length) := by
  unfold Machine.channel? Machine.description? Machine.withPipe
  constructor <;> simp

/-- Where the ends of a pipe are: the output of the first stage alone leads to the write end, and
the input of the second stage alone to the read end. So with the first stage gone nobody can write,
and with the second one gone the pipe has no reader. -/
structure HoldsPipe (pipe : Nat) (new : List Child) (v : World) : Prop where
  writing : v.numbersOf (.pipeWrite pipe) =
    (new[0]?.filter isRunning).toList.map fun c => (c.process.pid, Execution.stdout)
  reading : v.numbersOf (.pipeRead pipe) =
    (new[1]?.filter isRunning).toList.map fun c => (c.process.pid, Execution.stdin)
  unwritten : ∀ writer, new[0]? = some writer →
    (v.dropChild writer.process.pid).numbersOf (.pipeWrite pipe) = []
  unread : ∀ reader, new[1]? = some reader →
    ((v.dropChild reader.process.pid).withReaders.pipes[pipe]?).map Pipe.hasReader = some false

variable {left right : ArgVector}

/-- The numbers that one stage has for a channel. -/
theorem Launched.numbersOf_stage (h : Launched p new w v) (hsound : w.Sound)
    (hchannel : ∀ d, w.machine.channel? d ≠ some channel) {i fd : Nat} {handle : Handle}
    (hreplacement : p.replacement? w.machine.descriptions.length i = some (fd, handle)) :
    ((new[i]?.filter isRunning).toList.flatMap fun c => c.process.numbersOf v.machine channel) =
      if v.machine.channel? handle.description = some channel then
        (new[i]?.filter isRunning).toList.map fun c => (c.process.pid, fd)
      else [] := by
  cases hi : new[i]? with
  | none => split <;> rfl
  | some child =>
    cases hrunning : isRunning child with
    | false =>
      rw [Option.filter_some_neg (by simp [hrunning])]
      split <;> rfl
    | true =>
      rw [Option.filter_some_pos hrunning]
      show child.process.numbersOf v.machine channel ++ [] = _
      rw [List.append_nil, h.numbersOf_child hsound hchannel hi hrunning hreplacement]
      split <;> rfl

theorem Launched.channel?_ends (h : Launched (.pipeline left right) new w v) (hne : new ≠ []) :
    v.machine.channel? w.machine.descriptions.length = some (.pipeRead w.machine.pipes.length) ∧
      v.machine.channel? (w.machine.descriptions.length + 1) =
        some (.pipeWrite w.machine.pipes.length) ∧
      w.machine.pipes.length < v.machine.pipes.length := by
  obtain ⟨m, hopens, hkeeps⟩ := h.machine
  rw [hkeeps.channel?, hkeeps.channel?, hkeeps.pipes]
  cases hopens with
  | unpiped _ _ hnew => exact absurd hnew hne
  | piped =>
    obtain ⟨hread, hwrite⟩ := channel?_withPipe w.machine
    refine ⟨hread, hwrite, ?_⟩
    show _ < (w.machine.pipes ++ [_]).length
    rw [List.length_append]
    exact Nat.lt_succ_self _

/-- **The pipe of two stages** is where it should be. -/
theorem Launched.holdsPipe (h : Launched (.pipeline left right) new w v) (hsound : w.Sound) :
    HoldsPipe w.machine.pipes.length new v := by
  have hread : ∀ d, w.machine.channel? d ≠ some (.pipeRead w.machine.pipes.length) :=
    fun d hd => Nat.lt_irrefl _ (hsound.pipes d _ (.inl hd))
  have hwrite : ∀ d, w.machine.channel? d ≠ some (.pipeWrite w.machine.pipes.length) :=
    fun d hd => Nat.lt_irrefl _ (hsound.pipes d _ (.inr hd))
  have hnumbers : ∀ channel, (∀ d, w.machine.channel? d ≠ some channel) →
      v.numbersOf channel =
        (if v.machine.channel? (w.machine.descriptions.length + 1) = some channel then
          (new[0]?.filter isRunning).toList.map fun c => (c.process.pid, Execution.stdout)
        else []) ++
        if v.machine.channel? w.machine.descriptions.length = some channel then
          (new[1]?.filter isRunning).toList.map fun c => (c.process.pid, Execution.stdin)
        else [] := by
    intro channel hchannel
    rw [h.numbersOf hsound hchannel, flatMap_running h.count,
      h.numbersOf_stage hsound hchannel (i := 0) rfl, h.numbersOf_stage hsound hchannel (i := 1) rfl]
  have hself : ∀ channel, (∀ d, w.machine.channel? d ≠ some channel) →
      v.self.numbersOf v.machine channel = [] := by
    intro channel hchannel
    refine Process.numbersOf_eq_nil fun e he => ?_
    rw [h.self] at he
    rw [h.channel? (hsound.self e he)]
    exact hchannel _
  by_cases hne : new = []
  · subst hne
    have hnone : ∀ channel, (∀ d, w.machine.channel? d ≠ some channel) →
        v.numbersOf channel = [] := by
      intro channel hchannel
      rw [h.numbersOf hsound hchannel]
      rfl
    exact ⟨hnone _ hwrite, hnone _ hread, (fun _ h => nomatch h), fun _ h => nomatch h⟩
  · obtain ⟨hreadEnd, hwriteEnd, hpipe⟩ := h.channel?_ends hne
    have hwriting : v.numbersOf (.pipeWrite w.machine.pipes.length) =
        (new[0]?.filter isRunning).toList.map fun c => (c.process.pid, Execution.stdout) := by
      rw [hnumbers _ hwrite, hreadEnd, hwriteEnd, if_pos rfl, if_neg (by simp), List.append_nil]
    have hreading : v.numbersOf (.pipeRead w.machine.pipes.length) =
        (new[1]?.filter isRunning).toList.map fun c => (c.process.pid, Execution.stdin) := by
      rw [hnumbers _ hread, hreadEnd, hwriteEnd, if_neg (by simp), if_pos rfl, List.nil_append]
    -- With its process gone the one number that is left goes too.
    have hgone : ∀ (child : Child) (fd : Nat),
        (((some child).filter isRunning).toList.map fun c => (c.process.pid, fd)).filter
          (fun e => e.1 != child.process.pid) = [] := by
      intro child fd
      cases hrunning : isRunning child <;> simp [hrunning, Option.filter]
    refine ⟨hwriting, hreading, fun writer hwriter => ?_, fun reader hreader => ?_⟩
    · rw [numbersOf_dropChild (hself _ hwrite), hwriting, hwriter]
      exact hgone writer _
    · have hunread : (v.dropChild reader.process.pid).numbersOf
          (.pipeRead w.machine.pipes.length) = [] := by
        rw [numbersOf_dropChild (hself _ hread), hreading, hreader]
        exact hgone reader _
      rw [hasReader_withReaders, hunread]
      show (v.machine.pipes[w.machine.pipes.length]?).map _ = _
      rw [List.getElem?_eq_getElem hpipe]
      rfl

end World

/-! ### Lines -/

/-- A program that starts finds the numbers of its process that do not end with that. -/
theorem Proc.exec_entered {args : List Text} {image : Image} {w v : World}
    (h : (Proc.exec args).run w = (.ok image, v)) :
    v.self = Exec.enter w.self ∧ v.nextPid = w.nextPid ∧
      w.Enters [(w.self.pid, image)] v := by
  rw [Proc.run_exec] at h
  rcases Execution.tryExec_cases args w with ⟨e, hrun⟩ | ⟨image', hrun⟩
  · rw [hrun] at h
    cases h
  · rw [hrun] at h
    cases h
    exact ⟨rfl, rfl, [.started args w.self (.ok image)], rfl, rfl⟩

namespace Shell

open World

/-- What the programs of a line begin with, and where everything is then that the line has opened:
`entered` are all the processes that programs enter in the course of it. -/
inductive Topology (shell : Shell) (w : World) (line : Text) :
    (Except ShellError Flow × Shell) × World → Prop
  /-- No program starts. -/
  | still {r : (Except ShellError Flow × Shell) × World} (hreturns : Returns r.1.1)
      (henters : w.Enters [] r.2) : Topology shell w line r
  /-- The shell becomes a program, which begins with its numbers. -/
  | became {image : Image} {v : World}
      (htable : v.self.descriptors = w.self.descriptors.atExec)
      (henters : w.Enters [(w.self.pid, image)] v) :
      Topology shell w line ((.ok (.replaced image), shell), v)
  /-- The children of a plan are launched and then waited for: whoever is entered by a program is one
  of them. -/
  | ran {p : Plan} {new : List Child} (hp : (planned shell w line).outcome = .ok (some p))
      (records : List Log.Record) {r : Except ShellError Unit} {v : World}
      (hrun : (Execution.launch p).run (w.noting records) =
        ((r, new.map fun c => c.process.pid), v))
      (hlaunched : Launched p new (w.noting records) v)
      (honly : ∀ process ∈ v.holders, ∀ e ∈ process.descriptors,
        w.machine.descriptions.length ≤ e.2.description →
          ∃ i child, new[i]? = some child ∧ isRunning child = true ∧ process = child.process ∧
            p.replacement? w.machine.descriptions.length i = some e)
      (hpipe : ∀ left right, p = .pipeline left right →
        HoldsPipe w.machine.pipes.length new v)
      (henters : w.Enters (new.filterMap Child.entered?)
        ((Execution.waits (new.map fun c => c.process.pid)).run v).2) :
      Topology shell w line ((r.map fun _ => .proceed, shell),
        ((Execution.waits (new.map fun c => c.process.pid)).run v).2)

variable {shell : Shell} {w : World} {line : Text}

theorem topology_ran {p : Plan} (hsound : w.Sound)
    (hopen : ∀ fd ≤ 2, (Table.get? fd w.self.descriptors).isSome = true)
    (hp : (planned shell w line).outcome = .ok (some p)) (records : List Log.Record) :
    let r := (runPlan p).run (w.noting records)
    Topology shell w line ((r.1.map fun _ => .proceed, shell), r.2) := by
  obtain ⟨input, hin⟩ := Option.isSome_iff_exists.1 (hopen Execution.stdin (by decide))
  obtain ⟨output, hout⟩ := Option.isSome_iff_exists.1 (hopen Execution.stdout (by decide))
  obtain ⟨new, hpids, hlaunched⟩ := Execution.launched_of_launching
    (Execution.launching_launch (w := w.noting records) p hin hout)
  have hsound' := hsound.noting records
  -- Records that were logged before have added neither descriptions nor pipes.
  have hlength := (Machine.keeps_foldl_noted w.log w.self.descriptors records w.machine).length
  have hpipes := (Machine.keeps_foldl_noted w.log w.self.descriptors records w.machine).pipes
  dsimp only
  rw [Execution.run_runPlan]
  rcases hrun : (Execution.launch p).run (w.noting records) with ⟨⟨r, pids⟩, v⟩
  rw [hrun] at hpids hlaunched
  obtain rfl : pids = _ := hpids
  refine .ran hp records hrun hlaunched ?_ ?_ ?_
  · have honly := hlaunched.only hsound'
    rwa [show (w.noting records).machine.descriptions.length = _ from hlength] at honly
  · rintro left right rfl
    have hholds := Launched.holdsPipe hlaunched hsound'
    rwa [show (w.noting records).machine.pipes.length = _ from hpipes] at hholds
  · have henters := hlaunched.enters.trans (Execution.enters_waits
      (new.map fun c => c.process.pid) v)
    rwa [List.append_nil] at henters

theorem topology_became (v : ArgVector) (records : List Log.Record) :
    let r := (Execution.replaceImage v).run (w.noting records)
    Topology shell w line ((r.1.map .replaced, shell), r.2) := by
  have hreplacement := Execution.replacement_replaceImage v (w.noting records)
  dsimp only
  generalize (Execution.replaceImage v).run (w.noting records) = r at hreplacement
  cases hreplacement with
  | unfit h => exact .still (returns_error _) (.of_trace rfl)
  | @failed args h e made hmade more calls u hu hcalls =>
    have hnone : made.filterMap Event.entered? = [] := by
      refine List.filterMap_eq_nil_iff.2 fun event hevent => ?_
      obtain ⟨words, rfl⟩ := hmade event hevent
      rfl
    have htrace : u.trace = made ++ w.trace := by
      rw [hu]
      rfl
    have henters : w.Enters [] u := .of_made htrace hnone
    exact .still (returns_error _) henters
  | started h image hu =>
    obtain ⟨hself, -, henters⟩ := Proc.exec_entered hu
    exact .became (by rw [hself]; rfl) henters

/-- **What the programs of a line begin with.** With input, output and error output open, each
program that a line starts finds the numbers of the shell that do not end with that, with one
replaced at most: none if it is a simple command or takes the place of the shell, the output by the
write end of the pipe in a first stage, the input by the read end in a second one, and the output by
the target. Nothing else leads to what the line has opened, and as the shell has no end of the pipe
when it begins to wait, with one stage gone the other one sees that. -/
theorem exec_topology (line : Text) (shell : Shell) (hsound : w.Sound)
    (hopen : ∀ fd ≤ 2, (Table.get? fd w.self.descriptors).isSome = true) :
    Topology shell w line (((exec line).start shell).run w) := by
  have hcourse := course_exec line shell w
  generalize ((exec line).start shell).run w = r at hcourse
  cases hcourse with
  | refused h records => exact .still (returns_error _) (.of_trace rfl)
  | settled flow h records => exact .still h (.of_trace rfl)
  -- A line that launches nothing starts no program.
  | @moved operand records after r shell' w' hcd hafter =>
    have hreturns : Returns (r.map fun _ => Flow.proceed) := by
      cases r with
      | error e => exact returns_error e
      | ok _ => exact returns_proceed
    refine .still hreturns ?_
    cases Builtin.move_of_cd hcd <;> exact .of_trace rfl
  | helped records after =>
    rw [Proc.run_write]
    exact .still returns_proceed (.of_trace rfl)
  | became v records h =>
    have htopology : Topology shell w line _ := topology_became v records
    rwa [h] at htopology
  | ran hp records h =>
    have htopology : Topology shell w line _ := topology_ran hsound hopen hp records
    rwa [h] at htopology

/-- A pipeline of two programs that start. -/
theorem exec_topology_speaking :
    let line := Text.lit "/p | /p"
    let r := ((exec line).start ⟨[Path.slash], 2⟩).run speaking
    Topology ⟨[Path.slash], 2⟩ speaking line r ∧
      r.2.trace.reverse.filterMap Event.entered? =
        [(4001, ⟨Text.lit "p", [bytesOf "/p"]⟩), (4002, ⟨Text.lit "p", [bytesOf "/p"]⟩)] :=
  ⟨exec_topology _ _ (sound_start _ _ _ _ _ _) (by decide), by decide +kernel⟩

end Shell

end LineShell
