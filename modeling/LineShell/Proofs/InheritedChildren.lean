import LineShell.Proofs.SignalHistories
import Mathlib.Data.List.Nodup
import Mathlib.Data.List.Perm.Subperm
/-!
# Inherited children

At its start a process may have children that it has not made. The startup takes away those that
have ended, one with each call, and stops at the first call that finds none: `Signals.Drains` is
this loop without a bound. Others may end meanwhile, so that the number of rounds is known only when
they are over (`World.Drained`).

A round takes one child away and ends no child that is still running, `run_poll_eq`; so the loop
ends after at most as many rounds as there are children, and one more (`drains_reapInherited`). The
headline is `Signals.startup_drains`.
-/

namespace LineShell

/-! ### Children that end -/

/-- A child before and after children of some numbers have ended. -/
structure Child.Ends (pids : List Nat) (c c' : Child) : Prop where
  process : c'.process = c.process
  ended : World.isRunning c' = false ↔ World.isRunning c = false ∨ c.process.pid ∈ pids
  running : World.isRunning c' = true → c' = c

theorem Child.Ends.append {pids pids' : List Nat} {c c' c'' : Child} (h : c.Ends pids c')
    (h' : c'.Ends pids' c'') : c.Ends (pids ++ pids') c'' where
  process := h'.process.trans h.process
  ended := by rw [h'.ended, h.ended, h.process, List.mem_append, or_assoc]
  running hrunning := by
    have hlast := h'.running hrunning
    rw [hlast] at hrunning ⊢
    exact h.running hrunning

namespace World

variable {w w' : World}

/-- No two children have the same number. -/
def Distinct (w : World) : Prop := (w.children.map fun c => c.process.pid).Nodup

theorem Distinct.eq_of_pid (h : w.Distinct) {c d : Child} (hc : c ∈ w.children)
    (hd : d ∈ w.children) (hpid : c.process.pid = d.process.pid) : c = d :=
  List.inj_on_of_nodup_map h hc hd hpid

/-- The worlds that differ by a machine, and by children that keep their numbers. -/
theorem Distinct.map (h : w.Distinct) {settle : Child → Child}
    (hsettle : ∀ c ∈ w.children, (settle c).process = c.process)
    (hchildren : w'.children = w.children.map settle) : w'.Distinct := by
  have hpids : w.children.map ((fun c => c.process.pid) ∘ settle) =
      w.children.map fun c => c.process.pid :=
    List.map_congr_left fun c hc => congrArg Process.pid (hsettle c hc)
  unfold Distinct
  rw [hchildren, List.map_map, hpids]
  exact h

theorem finish_process (w : World) (c : Child) : (w.finish c).2.process = c.process := by
  unfold finish
  cases c.fate <;> rfl

theorem isRunning_finish (w : World) (c : Child) : isRunning (w.finish c).2 = false := by
  unfold finish
  cases hfate : c.fate with
  | running image => rfl
  | ended status =>
    unfold isRunning
    dsimp only
    rw [hfate]

/-- Letting a child run to its end ends that child alone. -/
theorem finishPid_ends (h : w.Distinct) (pid : Nat) :
    ∃ m settle, w.finishPid pid = { w with machine := m, children := w.children.map settle } ∧
      ∀ c ∈ w.children, c.Ends [pid] (settle c) := by
  unfold finishPid
  cases hfound : w.child? pid with
  | none =>
    refine ⟨w.machine, id, by rw [List.map_id], fun c hc => ⟨rfl, ?_, fun _ => rfl⟩⟩
    -- No child has the number, and so none of them is the one that ends.
    have hne := List.find?_eq_none.1 hfound c hc
    simp only [List.mem_singleton, beq_iff_eq] at hne ⊢
    exact (or_iff_left hne).symm
  | some c =>
    have hpid : c.process.pid = pid := by simpa [child?] using List.find?_some hfound
    have hmem : c ∈ w.children := List.mem_of_find?_eq_some hfound
    have hprocess : (w.finish c).2.process = c.process := finish_process w c
    have hended : isRunning (w.finish c).2 = false := isRunning_finish w c
    obtain ⟨m, hm⟩ := finish_eq w c
    refine ⟨m, fun d => if d.process.pid == (w.finish c).2.process.pid then (w.finish c).2 else d,
      ?_, fun d hd => ?_⟩
    · show (w.finish c).1.setChild (w.finish c).2 = _
      rw [hm]
      rfl
    · dsimp only
      rw [hprocess, hpid]
      -- Numbers are distinct: only the child that was found is replaced.
      by_cases hsame : d.process.pid = pid
      · obtain rfl : d = c := h.eq_of_pid hd hmem (hsame.trans hpid.symm)
        rw [if_pos (beq_iff_eq.2 hsame)]
        refine ⟨hprocess, iff_of_true hended (.inr (List.mem_singleton.2 hsame)),
          fun hrunning => ?_⟩
        rw [hended] at hrunning
        cases hrunning
      · rw [if_neg (mt beq_iff_eq.1 hsame)]
        exact ⟨rfl, by simp [hsame], fun _ => rfl⟩

theorem finishPids_ends (h : w.Distinct) (pids : List Nat) :
    ∃ m settle,
      pids.foldl finishPid w = { w with machine := m, children := w.children.map settle } ∧
      ∀ c ∈ w.children, c.Ends pids (settle c) := by
  induction pids generalizing w with
  | nil =>
    refine ⟨w.machine, id, by rw [List.map_id]; rfl, fun c _ => ⟨rfl, by simp, fun _ => rfl⟩⟩
  | cons pid pids ih =>
    obtain ⟨m, settle, hfinish, hends⟩ := finishPid_ends h pid
    rw [List.foldl_cons, hfinish]
    have hdistinct : Distinct { w with machine := m, children := w.children.map settle } :=
      h.map (fun c hc => (hends c hc).process) rfl
    obtain ⟨m', settle', hrest, hends'⟩ := ih hdistinct
    refine ⟨m', settle' ∘ settle, ?_, fun c hc => ?_⟩
    · rw [hrest, ← List.map_map]
    · exact (hends c hc).append (hends' (settle c) (List.mem_map_of_mem hc))

/-- The number of the child that a call without waiting takes away, if there is one. -/
def found? (w : World) : Option Nat :=
  (w.children.find? fun c => !isRunning c).map fun c => c.process.pid

theorem found?_eq_none (h : w.found? = none) : ∀ c ∈ w.children, isRunning c = true := by
  intro c hc
  simpa using List.find?_eq_none.1 (Option.map_eq_none_iff.1 h) c hc

theorem found?_eq_some {pid : Nat} (h : w.found? = some pid) :
    ∃ c ∈ w.children, isRunning c = false ∧ c.process.pid = pid := by
  obtain ⟨c, hfound, hpid⟩ := Option.map_eq_some_iff.1 h
  exact ⟨c, List.mem_of_find?_eq_some hfound, by simpa using List.find?_some hfound, hpid⟩

/-- The world as a call without waiting finds it, after children have ended. -/
def settled (w : World) (m : Machine) (settle : Child → Child) : World :=
  { w with machine := m, children := w.children.map settle, polls := w.polls + 1 }

/-- **One call** looks at the children after some have ended by themselves, and takes one away if it
has ended. -/
theorem run_poll_eq (h : w.Distinct) :
    ∃ m settle, (∀ c ∈ w.children, c.Ends (w.endings w.polls) (settle c)) ∧
      let v := w.settled m settle
      Proc.poll.run w = (v.found?,
        { v.found?.elim v v.dropChild with trace := .polled v.found? w.self :: w.trace }) := by
  obtain ⟨m, settle, hfinish, hends⟩ := finishPids_ends h (w.endings w.polls)
  refine ⟨m, settle, hends, ?_⟩
  unfold Proc.poll
  rw [run_bind, run_modify, run_bind, run_get, run_bind, Proc.run_note, hfinish]
  unfold settled found?
  dsimp only
  cases (w.children.map settle).find? fun c => !isRunning c with
  | none => rfl
  | some c => rfl

/-- What is left of children of which some have ended, when those that are left are running. -/
theorem filter_map_ends {settle : Child → Child} {pids : List Nat} {cs : List Child}
    (keep : Nat → Bool) (hends : ∀ c ∈ cs, c.Ends pids (settle c))
    (hrunning : ∀ c ∈ (cs.map settle).filter fun c => keep c.process.pid, isRunning c = true) :
    ((cs.map settle).filter fun c => keep c.process.pid) =
      cs.filter fun c => keep c.process.pid := by
  induction cs with
  | nil => rfl
  | cons c cs ih =>
    have hc := hends c List.mem_cons_self
    rw [List.map_cons, List.filter_cons, List.filter_cons, hc.process]
    rw [List.map_cons, List.filter_cons, hc.process] at hrunning
    by_cases hkeep : keep c.process.pid = true
    · rw [if_pos hkeep] at hrunning ⊢
      rw [if_pos hkeep, hc.running (hrunning _ List.mem_cons_self),
        ih (fun d hd => hends d (List.mem_cons_of_mem c hd))
          (fun d hd => hrunning d (List.mem_cons_of_mem _ hd))]
    · rw [if_neg hkeep] at hrunning ⊢
      rw [if_neg hkeep, ih (fun d hd => hends d (List.mem_cons_of_mem c hd)) hrunning]

/-- Who is left when a child has been taken away. -/
theorem mem_dropChild_iff {m : Machine} {settle : Child → Child} {pid : Nat}
    (hsettle : ∀ c ∈ w.children, (settle c).process = c.process) (c' : Child) :
    c' ∈ ((w.settled m settle).dropChild pid).children ↔
      ∃ c ∈ w.children, c.process.pid ≠ pid ∧ settle c = c' := by
  show c' ∈ (w.children.map settle).filter _ ↔ _
  rw [List.mem_filter, List.mem_map, bne_iff_ne]
  constructor
  · rintro ⟨⟨c, hc, rfl⟩, hne⟩
    rw [hsettle c hc] at hne
    exact ⟨c, hc, hne, rfl⟩
  · rintro ⟨c, hc, hne, rfl⟩
    refine ⟨⟨c, hc, rfl⟩, ?_⟩
    rwa [hsettle c hc]

/-- Taking away more children leaves those that are none of all of them. -/
theorem filter_dropChild (pid : Nat) (taken : List Nat) :
    ((w.dropChild pid).children.filter fun c => !taken.contains c.process.pid) =
      w.children.filter fun c => !(pid :: taken).contains c.process.pid := by
  show (w.children.filter _).filter _ = _
  rw [List.filter_filter]
  refine List.filter_congr fun c _ => ?_
  rw [List.contains_cons, Bool.not_or, Bool.and_comm]
  rfl

/-- The child has ended, or ends by itself until so many further calls have been made. -/
def HasEnded (w : World) (c : Child) (further : Nat) : Prop :=
  isRunning c = false ∨ ∃ n ≤ further, c.process.pid ∈ w.endings (w.polls + n)

theorem HasEnded.mono {c : Child} {further more : Nat} (h : w.HasEnded c further)
    (hle : further ≤ more) : w.HasEnded c more :=
  h.imp_right fun ⟨n, hn, hmem⟩ => ⟨n, Nat.le_trans hn hle, hmem⟩

theorem hasEnded_zero_iff {c c' : Child} (h : c.Ends (w.endings w.polls) c') :
    w.HasEnded c 0 ↔ isRunning c' = false := by
  rw [h.ended]
  refine or_congr_right ⟨?_, fun hmem => ⟨0, Nat.le_refl 0, hmem⟩⟩
  rintro ⟨n, hn, hmem⟩
  obtain rfl := Nat.le_zero.1 hn
  exact hmem

theorem hasEnded_succ_iff {c c' : Child} {further : Nat} (h : c.Ends (w.endings w.polls) c')
    (hendings : w'.endings = w.endings) (hpolls : w'.polls = w.polls + 1) :
    w.HasEnded c (further + 1) ↔ w'.HasEnded c' further := by
  unfold HasEnded
  rw [h.ended, h.process, hendings, hpolls, or_assoc]
  refine or_congr_right ⟨?_, ?_⟩
  · rintro ⟨n, hn, hmem⟩
    cases n with
    | zero => exact .inl hmem
    | succ n => exact .inr ⟨n, Nat.le_of_succ_le_succ hn, by rwa [Nat.add_assoc, Nat.add_comm 1]⟩
  · rintro (hmem | ⟨n, hn, hmem⟩)
    · exact ⟨0, Nat.zero_le _, hmem⟩
    · exact ⟨n + 1, Nat.succ_le_succ hn, by rwa [Nat.add_comm n, ← Nat.add_assoc]⟩

/-- What a loop has done that has taken away children of these numbers. -/
structure Drained (w : World) (taken : List Nat) (w' : World) : Prop where
  /-- It has made one call for each of them, and one that found none, as the process that it is.
  Nothing else was asked of the machine, and the other children are as they were. -/
  world : ∃ m, w' = { w with
    machine := m
    children := w.children.filter fun c => !taken.contains c.process.pid
    polls := w.polls + (taken.length + 1)
    trace := ((taken.map some ++ [none]).reverse.map fun found => .polled found w.self) ++ w.trace }
  /-- It has taken away no child twice. -/
  once : taken.Nodup
  /-- They are the children that had ended before, or have ended by the last call. -/
  taken_iff : ∀ pid, pid ∈ taken ↔ ∃ c ∈ w.children, c.process.pid = pid ∧ w.HasEnded c taken.length
  /-- The others are still running. -/
  running : ∀ c ∈ w'.children, isRunning c = true

theorem Drained.length_le {taken : List Nat} (h : w.Drained taken w') :
    taken.length ≤ w.children.length := by
  have hsubset : taken ⊆ w.children.map fun c => c.process.pid := by
    intro pid hpid
    obtain ⟨c, hc, rfl, -⟩ := (h.taken_iff pid).1 hpid
    exact List.mem_map_of_mem hc
  have hle := (h.once.subperm hsubset).length_le
  rwa [List.length_map] at hle

end World

namespace Signals

open World

variable {w w' : World} {taken : List Nat} {pid : Nat}

/-! ### The loop -/

/-- The log record of a child that was taken away. -/
def takenRecord (pid : Nat) : Log.Record :=
  ⟨.debug, source, Text.lit "reaped inherited child", [Log.Record.count "pid" pid]⟩

/-- The loop that takes away children until a call finds none. -/
inductive Drains : World → List Nat → World → Prop
  | done {w : World} (h : (Proc.poll.run w).1 = none) : Drains w [] (Proc.poll.run w).2
  | more {w w' : World} {pid : Nat} {taken : List Nat} (h : (Proc.poll.run w).1 = some pid)
      (hrest : Drains ((Proc.poll.run w).2.noting [takenRecord pid]) taken w') :
      Drains w (pid :: taken) w'

/-- **A call that finds none** is all of a loop. -/
theorem drained_done (h : w.Distinct) (hnone : (Proc.poll.run w).1 = none) :
    w.Drained [] (Proc.poll.run w).2 := by
  obtain ⟨m, settle, hends, hpoll⟩ := run_poll_eq h
  dsimp only at hpoll
  rw [hpoll] at hnone ⊢
  dsimp only at hnone ⊢
  rw [hnone]
  have hrunning := found?_eq_none hnone
  have hchildren : w.children.map settle = w.children := by
    have hall := filter_map_ends (fun _ => true) hends
    simp only [List.filter_true] at hall
    exact hall hrunning
  refine ⟨⟨m, ?_⟩, List.nodup_nil, fun pid => iff_of_false List.not_mem_nil ?_, hrunning⟩
  · unfold settled
    rw [hchildren]
    simp
  · rintro ⟨c, hc, -, hended⟩
    rw [List.length_nil, hasEnded_zero_iff (hends c hc),
      hrunning (settle c) (List.mem_map_of_mem hc)] at hended
    cases hended

/-- **A call that finds a child** is the first of a loop, which goes on without that child. -/
theorem drained_more (h : w.Distinct) (hsome : (Proc.poll.run w).1 = some pid)
    (hrest : ((Proc.poll.run w).2.noting [takenRecord pid]).Drained taken w') :
    w.Drained (pid :: taken) w' := by
  obtain ⟨m, settle, hends, hpoll⟩ := run_poll_eq h
  dsimp only at hpoll
  rw [hpoll] at hsome hrest
  dsimp only at hsome
  rw [hsome] at hrest
  obtain ⟨d, hd, hdended, hdpid⟩ := found?_eq_some hsome
  obtain ⟨c, hc, rfl⟩ := List.mem_map.1 hd
  -- the world that the rest of the loop starts in
  let v : World := ({ (w.settled m settle).dropChild pid with
    trace := .polled (some pid) w.self :: w.trace } : World).noting [takenRecord pid]
  obtain ⟨⟨m', hworld⟩, honce, htaken, hrunning⟩ : v.Drained taken w' := hrest
  have hpid : ∀ e ∈ w.children, (settle e).process.pid = e.process.pid :=
    fun e he => congrArg Process.pid (hends e he).process
  have hended : ∀ e ∈ w.children,
      (w.HasEnded e (pid :: taken).length ↔ v.HasEnded (settle e) taken.length) :=
    fun e he => hasEnded_succ_iff (hends e he) rfl rfl
  have hleft : ∀ e, e ∈ v.children ↔ ∃ e' ∈ w.children, e'.process.pid ≠ pid ∧ settle e' = e :=
    mem_dropChild_iff fun e he => (hends e he).process
  refine ⟨⟨m', ?_⟩, List.nodup_cons.2 ⟨fun hmem => ?_, honce⟩, fun pid' => ⟨fun hmem => ?_, ?_⟩,
    hrunning⟩
  · have hkeep : (v.children.filter fun e => !taken.contains e.process.pid) =
        (w.children.map settle).filter fun e => !(pid :: taken).contains e.process.pid :=
      filter_dropChild pid taken
    have hpolls : v.polls + (taken.length + 1) = w.polls + ((pid :: taken).length + 1) := by
      show w.polls + 1 + (taken.length + 1) = _
      rw [List.length_cons]
      omega
    have hchildren := filter_map_ends (fun pid' => !(pid :: taken).contains pid') hends
    rw [← hkeep] at hchildren
    rw [hworld] at hrunning
    rw [hworld, hchildren hrunning, hpolls]
    simp [v, World.noting, settled, dropChild]
  · obtain ⟨e, he, heq, -⟩ := (htaken pid).1 hmem
    obtain ⟨e', he', hne, rfl⟩ := (hleft e).1 he
    exact hne ((hpid e' he').symm.trans heq)
  · rcases List.mem_cons.1 hmem with rfl | hmem
    · refine ⟨c, hc, (hpid c hc).symm.trans hdpid, ?_⟩
      exact ((hasEnded_zero_iff (hends c hc)).2 hdended).mono (Nat.zero_le _)
    · obtain ⟨e, he, rfl, hfate⟩ := (htaken pid').1 hmem
      obtain ⟨e', he', -, rfl⟩ := (hleft e).1 he
      exact ⟨e', he', (hpid e' he').symm, (hended e' he').2 hfate⟩
  · rintro ⟨e, he, rfl, hfate⟩
    by_cases heq : e.process.pid = pid
    · exact List.mem_cons.2 (.inl heq)
    · refine List.mem_cons_of_mem _ ((htaken _).2 ⟨settle e, ?_, hpid e he, (hended e he).1 hfate⟩)
      exact (hleft _).2 ⟨e, he, heq, rfl⟩

theorem distinct_poll (h : w.Distinct) : (Proc.poll.run w).2.Distinct := by
  obtain ⟨m, settle, hends, hpoll⟩ := run_poll_eq h
  have hsettled : (w.settled m settle).Distinct :=
    h.map (fun c hc => (hends c hc).process) rfl
  dsimp only at hpoll
  rw [hpoll]
  cases (w.settled m settle).found? with
  | none => exact hsettled
  | some pid => exact hsettled.sublist (List.filter_sublist.map _)

theorem length_poll (h : w.Distinct) (hsome : (Proc.poll.run w).1 = some pid) :
    (Proc.poll.run w).2.children.length < w.children.length := by
  obtain ⟨m, settle, hends, hpoll⟩ := run_poll_eq h
  dsimp only at hpoll
  rw [hpoll] at hsome ⊢
  dsimp only at hsome ⊢
  rw [hsome]
  obtain ⟨c, hc, -, hpid⟩ := found?_eq_some hsome
  have hlength : (w.settled m settle).children.length = w.children.length := List.length_map _
  rw [← hlength]
  exact List.length_filter_lt_length_iff_exists.2 ⟨c, hc, by simp [hpid]⟩

/-- **What a loop comes to.** -/
theorem Drains.drained (h : Drains w taken w') (hdistinct : w.Distinct) : w.Drained taken w' := by
  induction h with
  | done h => exact drained_done hdistinct h
  | more h _ ih => exact drained_more hdistinct h (ih (distinct_poll hdistinct))

/-- **The loop ends**, after no more rounds than there are children. -/
theorem drains_reapInherited {fuel : Nat} (hdistinct : w.Distinct)
    (hfuel : w.children.length ≤ fuel) :
    ∃ taken, Drains w taken ((reapInherited fuel).run w).2 := by
  induction fuel generalizing w with
  | zero =>
    refine ⟨[], .done ?_⟩
    cases hpoll : (Proc.poll.run w).1 with
    | none => rfl
    | some pid =>
      -- There would be a child to take away, but there are no more than rounds.
      have hlt := length_poll hdistinct hpoll
      omega
  | succ fuel ih =>
    unfold reapInherited
    rw [run_bind]
    cases hpoll : (Proc.poll.run w).1 with
    | none => exact ⟨[], .done hpoll⟩
    | some pid =>
      have hlt := length_poll hdistinct hpoll
      dsimp only
      rw [run_bind, Proc.run_log]
      obtain ⟨taken, hrest⟩ := ih (w := (Proc.poll.run w).2.noting [takenRecord pid])
        (distinct_poll hdistinct) (Nat.le_of_lt_succ (Nat.lt_of_lt_of_le hlt hfuel))
      exact ⟨pid :: taken, .more hpoll hrest⟩

/-! ### Startups -/

/-- **A startup takes away the children that have ended**, and only those, with one call for each
and one more that finds none, while interrupts are ignored; then the handler of the prompt is
installed. If interrupts cannot be ignored, nothing happens. If the handler cannot be installed,
they stay ignored after the children have been taken away. Either is reported. -/
theorem startup_drains (h : w.Distinct) :
    (w.grants 0 = false →
      ∃ e, startup.run w = (.error (.signal e), w.counting .signalAction)) ∧
    (w.grants 0 = true → ∃ v taken u,
      w.Alters v ∧ v.self.interrupts = w.self.interrupts.record .ignoring ∧
      Drains v taken u ∧ v.Drained taken u ∧ taken.length ≤ w.children.length ∧
      u.self.interrupts = w.self.interrupts.record .ignoring ∧
      (w.grants 1 = true → ∃ w', startup.run w = (.ok (), w') ∧ u.Alters w' ∧
        w'.self.interrupts = w.self.interrupts.record .interactive) ∧
      (w.grants 1 = false →
        ∃ e, startup.run w = (.error (.signal e), u.counting .signalAction))) := by
  refine ⟨fun hrefused => ?_, fun hgranted => ?_⟩
  · obtain ⟨e, he⟩ := refusal_of_not_grants hrefused
    exact ⟨e, run_startup_refused he⟩
  -- The world with interrupts ignored, and the one in which no ended child is left.
  · let v := w.altered (w.self.interrupts.record .ignoring)
      (changeRecords w.self.interrupts.recorded .ignoring) (.signalAction :: w.calls)
    let u := ((reapInherited v.children.length).run v).2
    have hrun : startup.run w = (install .interactive).run u := by
      unfold startup
      rw [run_bind, run_install_granted (grants_zero_iff.1 hgranted)]
      rfl
    obtain ⟨taken, hdrains⟩ : ∃ taken, Drains v taken u := drains_reapInherited h (Nat.le_refl _)
    have hdrained : v.Drained taken u := hdrains.drained h
    obtain ⟨m, hworld⟩ := hdrained.world
    have hself : u.self = v.self := by rw [hworld]
    -- Taking children away asks for no signal action, so that the second change is the next one.
    have hgrants : u.grants 0 = w.grants 1 := by
      unfold World.grants
      rw [hworld]
      show (w.faults .signalAction
        ((.signalAction :: w.calls).count .signalAction + 0)).isNone = _
      rw [List.count_cons_self]
    refine ⟨v, taken, u, ⟨_, _, _, rfl⟩, rfl, hdrains, hdrained, hdrained.length_le,
      congrArg Process.interrupts hself, fun hinstalls => ?_, fun hrefused => ?_⟩
    · rw [← hgrants] at hinstalls
      refine ⟨_, hrun.trans (run_install_granted (grants_zero_iff.1 hinstalls) _),
        ⟨_, _, _, rfl⟩, ?_⟩
      show u.self.interrupts.record .interactive = _
      rw [hself]
      rfl
    · rw [← hgrants] at hrefused
      obtain ⟨e, he⟩ := refusal_of_not_grants hrefused
      exact ⟨e, hrun.trans (run_install_refused he _)⟩

/-- Of three children one has ended before, one ends before the second call, and one is left. -/
theorem startup_drains_three :
    let image : Image := ⟨Text.lit "true", []⟩
    let child (pid : Nat) (fate : Fate) : Child := ⟨{ World.bare.self with pid := pid }, fate⟩
    let start : World := { World.bare with
      children :=
        [child 10 (.running image), child 11 (.running image), child 12 (.ended (.exited 0))]
      endings := fun n => if n = 1 then [11] else [] }
    start.Distinct ∧ ∃ (v : World) (taken : List Nat) (u w' : World),
      v.Drained taken u ∧ taken.length ≤ 3 ∧
      startup.run start = (.ok (), w') ∧ u.Alters w' ∧
      w'.children = [child 10 (.running image)] ∧
      w'.self.interrupts = start.self.interrupts.record .interactive := by
  intro image child start
  have hdistinct : start.Distinct := by
    show [10, 11, 12].Nodup
    decide
  obtain ⟨v, taken, u, -, -, -, hdrained, hlength, -, hinstalls, -⟩ :=
    (startup_drains hdistinct).2 rfl
  obtain ⟨w', hrun, halters, hinterrupts⟩ := hinstalls rfl
  have hchildren : (startup.run start).2.children = [child 10 (.running image)] := rfl
  rw [hrun] at hchildren
  exact ⟨hdistinct, v, taken, u, w', hdrained, hlength, hrun, halters, hchildren, hinterrupts⟩

end Signals

end LineShell
