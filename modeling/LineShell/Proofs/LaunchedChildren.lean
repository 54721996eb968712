import LineShell.Proofs.Launches
/-!
# The world before the waits

When the shell begins to wait for the children of a plan, it has the numbers that it had before, and
the children have those of the shell with one replaced at most: `Plan.table` says which, and
`Plan.Opens` where it leads. `World.Launched` gathers this, and `Execution.launched_of_launching`
says that every launch ends in such a world.
-/

namespace LineShell

/-! ### What a plan gives to its children -/

/-- What the child of a stage has in the place of one number of the shell, if there is anything: the
number and where it leads. The open descriptions that the line makes are numbered from `description`
on, the read end of a pipe first. -/
def Plan.replacement? (description : Nat) : Plan → Nat → Option (Nat × Handle)
  | .simple _, _ => none
  | .pipeline .., 0 => some (Execution.stdout, ⟨description + 1, false⟩)
  | .pipeline .., _ + 1 => some (Execution.stdin, ⟨description, false⟩)
  | .redirect .., _ => some (Execution.stdout, ⟨description, false⟩)

/-- The numbers of the shell, but for the one that the stage replaces. -/
def Plan.table (p : Plan) (i : Nat) (w : World) : DescriptorTable :=
  match p.replacement? w.machine.descriptions.length i with
  | none => w.self.descriptors
  | some (fd, handle) => Table.put fd handle w.self.descriptors

/-- The machine with what a plan has opened for its children. -/
inductive Plan.Opens (w : World) (new : List Child) : Plan → Machine → Prop
  /-- A simple command opens nothing. -/
  | simple (args : ArgVector) : Opens w new (.simple args) w.machine
  /-- There are no children without a pipe. -/
  | unpiped (left right : ArgVector) (hnew : new = []) : Opens w new (.pipeline left right) w.machine
  | piped (left right : ArgVector) : Opens w new (.pipeline left right) w.machine.withPipe
  /-- No program runs without the target. -/
  | untargeted (args : ArgVector) (target : Text) (mode : RedirectMode)
      (hnew : ∀ child ∈ new, World.isRunning child = false) :
      Opens w new (.redirect args target mode) w.machine
  /-- The target is opened by the child, where the shell is. -/
  | targeted (args : ArgVector) {target : Text} {mode : RedirectMode} {child : Process}
      {tree : FileTree} {channel : Channel} (hchild : child.directory = w.self.directory)
      (hopen : Call.openPath ⟨child, w.machine⟩ target.bytes (Execution.openMode mode) =
        .ok (tree, channel)) :
      Opens w new (.redirect args target mode)
        (w.machine.opening tree ⟨channel, 0, (Execution.openMode mode).append, false, true⟩)

/-! ### Children that have joined -/

namespace World

/-- The children of the first stages of a plan have joined. Those that run have the numbers of their
stage that do not end with the start of a program, and no other program has been started. -/
structure Joined (p : Plan) (new : List Child) (w v : World) : Prop where
  children : v.children = w.children ++ new
  nextPid : v.nextPid = w.nextPid + new.length
  pids : new.map (fun c => c.process.pid) = List.range' w.nextPid new.length
  tables : ∀ i child, new[i]? = some child → isRunning child = true →
    child.process.descriptors = (p.table i w).atExec
  enters : w.Enters (new.filterMap Child.entered?) v

/-- **The world before the waits**: some children have joined, and the shell has again, or still, no
number but its own. -/
structure Launched (p : Plan) (new : List Child) (w v : World) : Prop extends Joined p new w v where
  self : v.self = w.self
  count : new.length ≤ p.stages.length
  machine : ∃ m, p.Opens w new m ∧ m.Keeps v.machine

variable {p : Plan} {new : List Child} {child : Child} {t : DescriptorTable} {m : Machine}
  {u v w : World}

/-- So far there is no child. -/
theorem Joined.nil (p : Plan) (hchildren : v.children = w.children) (hnext : v.nextPid = w.nextPid)
    (henters : w.Enters [] v) : Joined p [] w v :=
  ⟨by rw [hchildren, List.append_nil], hnext, rfl, (fun _ _ h => nomatch h), henters⟩

/-- **One child joins the others.** -/
theorem Joined.joins (h : Joined p new w v)
    (hjoins : v.Joins (p.table new.length w).atExec m child u) : Joined p (new ++ [child]) w u := by
  refine ⟨?_, ?_, ?_, fun i c hc hrunning => ?_, ?_⟩
  · rw [hjoins.children, h.children, List.append_assoc]
  · rw [hjoins.nextPid, h.nextPid, List.length_append]
    rfl
  · rw [List.map_append, h.pids, List.length_append]
    show _ ++ [child.process.pid] = List.range' w.nextPid (new.length + 1)
    rw [hjoins.pid, h.nextPid, List.range'_1_concat]
  · rcases Nat.lt_trichotomy i new.length with hlt | rfl | hgt
    · rw [List.getElem?_append_left hlt] at hc
      exact h.tables i c hc hrunning
    · rw [List.getElem?_append_right (Nat.le_refl _), Nat.sub_self] at hc
      cases hc
      exact hjoins.table hrunning
    · rw [List.getElem?_eq_none (by rw [List.length_append]; exact hgt)] at hc
      cases hc
  · have henters := h.enters.trans hjoins.enters
    rwa [show child.entered?.toList = [child].filterMap Child.entered? by
      cases hentered : child.entered? <;> simp [hentered], ← List.filterMap_append] at henters

theorem Joined.noting (h : Joined p new w v) (records : List Log.Record) :
    Joined p new w (v.noting records) :=
  ⟨h.children, h.nextPid, h.pids, h.tables, h.enters⟩

theorem Joined.closing (h : Joined p new w v) (readEnd writeEnd : Nat) :
    Joined p new w (v.closing readEnd writeEnd) :=
  ⟨h.children, h.nextPid, h.pids, h.tables, h.enters⟩

theorem Joined.counting (h : Joined p new w v) (kind : CallKind) :
    Joined p new w (v.counting kind) :=
  ⟨h.children, h.nextPid, h.pids, h.tables, h.enters⟩

theorem Joined.one (p : Plan) (hjoins : w.Joins (p.table 0 w).atExec m child u) :
    Joined p [child] w u :=
  (Joined.nil p rfl rfl (.of_trace rfl)).joins hjoins

end World

namespace Execution

open World

variable {p : Plan} {w : World}

/-- **A launch ends in the world before the waits**, with the numbers of the children to wait for. -/
theorem launched_of_launching {r : (Except ShellError Unit × List Nat) × World}
    (h : Launching w p r) :
    ∃ new, r.1.2 = new.map (fun c => c.process.pid) ∧ Launched p new w r.2 := by
  -- Making the pipe makes no child.
  have hpipe {readEnd writeEnd : Nat} {p : Plan} : Joined p [] w (w.withPipe readEnd writeEnd) :=
    .nil p rfl rfl (w.enters_withPipe readEnd writeEnd)
  cases h with
  | unforked e hself hmachine hchildren hnext henters =>
    refine ⟨[], rfl, .nil p hchildren hnext henters, hself, Nat.zero_le _, w.machine, ?_,
      hmachine ▸ .refl _⟩
    cases p with
    | simple v => exact .simple v
    | pipeline left right => exact .unpiped left right rfl
    | redirect v target mode => exact .untargeted v target mode fun _ h => absurd h List.not_mem_nil
  | @simple v args hargs child u hchild records =>
    have hjoins := hchild.joins
    have hone : Joined (.simple v) [child] w u := .one _ hjoins
    exact ⟨[child], congrArg (fun n => [n]) hjoins.pid.symm, hone.noting _, hjoins.self,
      Nat.le_refl 1, _, .simple v, hjoins.machine.trans (Machine.keeps_foldl_noted _ _ _ _)⟩
  | @unused left right e readEnd writeEnd hfree =>
    exact ⟨[], rfl, (hpipe.counting _).closing _ _, self_closing hfree rfl, Nat.zero_le _, _,
      .piped left right, .refl _⟩
  -- The second fork was refused: there is one child of the two stages.
  | @half left right writer hleft e readEnd writeEnd hfree child u hwriter =>
    have hjoins := hwriter.joins
    have hone : Joined (.pipeline left right) ([] ++ [child]) w u := hpipe.joins hjoins
    exact ⟨[child], congrArg (fun n => [n]) hjoins.pid.symm, (hone.counting _).closing _ _,
      self_closing hfree hjoins.self, Nat.le_succ 1, _, .piped left right, hjoins.machine⟩
  | @whole left right writer reader hleft hright readEnd writeEnd hfree child child' u x hwriter
      hreader records =>
    have hjoins := hwriter.joins
    have hjoins' := hreader.joins
    have hone : Joined (.pipeline left right) ([] ++ [child]) w u := hpipe.joins hjoins
    have htwo : Joined (.pipeline left right) ([child] ++ [child']) w x := hone.joins hjoins'
    refine ⟨[child, child'], ?_, (htwo.closing _ _).noting _,
      self_closing hfree (hjoins'.self.trans hjoins.self), Nat.le_refl 2, _, .piped left right,
      (hjoins.machine.trans hjoins'.machine).trans (Machine.keeps_foldl_noted _ _ _ _)⟩
    exact htwo.pids.symm
  | @untargeted v args target mode child u hchild hended hopened records =>
    have hjoins := hchild.joins
    have hone : Joined (.redirect v target mode) [child] w u := .one _ hjoins
    refine ⟨[child], congrArg (fun n => [n]) hjoins.pid.symm, hone.noting _, hjoins.self,
      Nat.le_refl 1, _, .untargeted v target mode fun c hc => ?_,
      hjoins.machine.trans (Machine.keeps_foldl_noted _ _ _ _)⟩
    -- The child whose target did not open has ended, and so holds nothing.
    rw [List.mem_singleton.1 hc, hended]
  | @targeted v args hargs target mode self tree channel hself hopen child u hchild records =>
    have hjoins := hchild.joins
    have hone : Joined (.redirect v target mode) [child] w u := .one _ hjoins
    exact ⟨[child], congrArg (fun n => [n]) hjoins.pid.symm, hone.noting _, hjoins.self,
      Nat.le_refl 1, _, .targeted v hself hopen,
      hjoins.machine.trans (Machine.keeps_foldl_noted _ _ _ _)⟩

end Execution

end LineShell
