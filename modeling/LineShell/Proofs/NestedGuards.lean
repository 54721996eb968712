import LineShell.Proofs.SignalDiscipline
/-!
# Nested guards

A guard puts back the disposition that was recorded when it was made, whatever has been installed
since. So the guards that are alive form a stack of remembered dispositions. Dropped newest first,
each of them puts back what the guards below it want, `Alive.Stacked`; dropped in any order, they
put back one of the two dispositions that there are, `Alive.Remembers`.

`Signals.Guarding` are the worlds that creations and drops of guards reach. The headline is
`Signals.guards_restore`.
-/

namespace LineShell

/-- A disposition is recorded, and it is the real one. -/
def Interrupts.InForce (i : Interrupts) (d : Disposition) : Prop :=
  i.recorded = d ∧ i.sigint = d.action

theorem Interrupts.inForce_record (i : Interrupts) (d : Disposition) : (i.record d).InForce d :=
  ⟨rfl, rfl⟩

namespace Signals

/-- A guard that is alive, and the interrupts that its making found. -/
structure Alive where
  guard : Guard
  origin : Interrupts

/-- The worlds that creations and drops of guards reach, with the guards alive, the newest first. A
guard may be dropped if that is allowed by the number of newer ones. Meanwhile anything may happen
that leaves the interrupts as they are. -/
inductive Guarding (mayDrop : Nat → Prop) (start : World) : List Alive → World → Prop
  | start : Guarding mayDrop start [] start
  | make {alive : List Alive} {w : World} (h : Guarding mayDrop start alive w) :
      Guarding mayDrop start (⟨(Guard.make.run w).1, w.self.interrupts⟩ :: alive)
        (Guard.make.run w).2
  | drop {alive : List Alive} {w : World} {a : Alive} {newer : Nat}
      (h : Guarding mayDrop start alive w) (halive : alive[newer]? = some a)
      (hmay : mayDrop newer) :
      Guarding mayDrop start (alive.eraseIdx newer) (a.guard.drop.run w).2
  | work {alive : List Alive} {w w' : World} (h : Guarding mayDrop start alive w)
      (hinterrupts : w'.self.interrupts = w.self.interrupts) (hfaults : w'.faults = w.faults) :
      Guarding mayDrop start alive w'

variable {mayDrop : Nat → Prop} {start w : World} {alive : List Alive} {d : Disposition}

/-! ### Making and dropping -/

theorem run_installOrWarn_granted (hgrants : w.GrantsSignals) (d : Disposition) :
    ((installOrWarn d).run w).2.self.interrupts = w.self.interrupts.record d ∧
      ((installOrWarn d).run w).2.faults = w.faults := by
  obtain ⟨records, hrun⟩ := run_installOrWarn d w
  rw [hrun, World.installed_of_grants hgrants]
  exact ⟨rfl, rfl⟩

theorem run_make_granted (hgrants : w.GrantsSignals) :
    (Guard.make.run w).1 = ⟨w.self.interrupts.recorded⟩ ∧
      (Guard.make.run w).2.self.interrupts = w.self.interrupts.record .ignoring ∧
      (Guard.make.run w).2.faults = w.faults :=
  ⟨rfl, run_installOrWarn_granted hgrants .ignoring⟩

/-- What is granted stays granted. -/
theorem Guarding.grantsSignals (h : Guarding mayDrop start alive w)
    (hgrants : start.GrantsSignals) : w.GrantsSignals := by
  induction h with
  | start => exact hgrants
  | make _ ih => exact ih.of_eq (run_make_granted ih).2.2
  | @drop _ _ a _ _ _ _ ih => exact ih.of_eq (run_installOrWarn_granted ih a.guard.previous).2
  | work _ _ hfaults ih => exact ih.of_eq hfaults

/-! ### Newest first -/

/-- What is in force when these guards are alive. -/
def wanted (d : Disposition) (alive : List Alive) : Disposition :=
  if alive.isEmpty then d else .ignoring

/-- Every guard remembers what the older ones want. -/
def Alive.Stacked (d : Disposition) : List Alive → Prop
  | [] => True
  | a :: older => a.guard.previous = wanted d older ∧ Stacked d older

/-- **Guards that are dropped newest first** put back what was in force before. -/
theorem Guarding.inForce_wanted (h : Guarding (· = 0) start alive w)
    (hstart : start.self.interrupts.InForce d) (hgrants : start.GrantsSignals) :
    w.self.interrupts.InForce (wanted d alive) ∧ Alive.Stacked d alive := by
  -- By induction on the history. What is in force is what the newest guard left to be restored.
  induction h with
  | start => exact ⟨hstart, trivial⟩
  | make h ih =>
    obtain ⟨hguard, hinterrupts, -⟩ := run_make_granted (h.grantsSignals hgrants)
    refine ⟨?_, ?_, ih.2⟩
    · rw [hinterrupts]
      exact Interrupts.inForce_record _ _
    · rw [hguard]
      exact ih.1.1
  | @drop alive w a newer h halive hmay ih =>
    -- The newest guard is dropped, and what it remembers is what the ones below want.
    subst hmay
    cases alive with
    | nil => cases halive
    | cons b older =>
      cases halive
      obtain ⟨hprevious, hstacked⟩ := ih.2
      refine ⟨?_, hstacked⟩
      show ((installOrWarn a.guard.previous).run w).2.self.interrupts.InForce (wanted d older)
      rw [(run_installOrWarn_granted (h.grantsSignals hgrants) _).1, hprevious]
      exact Interrupts.inForce_record _ _
  | work _ hinterrupts _ ih =>
    rw [hinterrupts]
    exact ih

/-! ### In any order -/

/-- What guards can remember: one of the two dispositions in force while they were made. -/
def Alive.Remembers (d : Disposition) (a : Alive) : Prop :=
  a.guard.previous = a.origin.recorded ∧ (a.origin.InForce d ∨ a.origin.InForce .ignoring)

/-- **Guards that are dropped in any order** put back one of two dispositions. -/
theorem Guarding.inForce_or (h : Guarding mayDrop start alive w)
    (hstart : start.self.interrupts.InForce d) (hgrants : start.GrantsSignals) :
    (w.self.interrupts.InForce d ∨ w.self.interrupts.InForce .ignoring) ∧
      ∀ a ∈ alive, a.Remembers d := by
  -- By induction, with what every guard remembers: the start or that interrupts are ignored.
  induction h with
  | start => exact ⟨.inl hstart, fun _ h => nomatch h⟩
  | make h ih =>
    obtain ⟨hguard, hinterrupts, -⟩ := run_make_granted (h.grantsSignals hgrants)
    refine ⟨.inr ?_, fun a ha => ?_⟩
    · rw [hinterrupts]
      exact Interrupts.inForce_record _ _
    · rcases List.mem_cons.1 ha with rfl | ha
      · exact ⟨congrArg Guard.previous hguard, ih.1⟩
      · exact ih.2 a ha
  | @drop alive w a newer h halive _ ih =>
    -- Dropping any of them puts back what it remembers, which is one of the two.
    obtain ⟨hprevious, horigin⟩ := ih.2 a (List.mem_of_getElem? halive)
    refine ⟨?_, fun b hb => ih.2 b (List.mem_of_mem_eraseIdx hb)⟩
    show ((installOrWarn a.guard.previous).run w).2.self.interrupts.InForce d ∨
      ((installOrWarn a.guard.previous).run w).2.self.interrupts.InForce .ignoring
    rw [(run_installOrWarn_granted (h.grantsSignals hgrants) _).1, hprevious]
    rcases horigin with horigin | horigin
    · exact .inl (horigin.1 ▸ Interrupts.inForce_record _ _)
    · exact .inr (horigin.1 ▸ Interrupts.inForce_record _ _)
  | work _ hinterrupts _ ih =>
    rw [hinterrupts]
    exact ih

/-- A guard that is dropped puts the first disposition back exactly if it was made under it. -/
theorem inForce_drop_iff {a : Alive} (hgrants : w.GrantsSignals) (h : a.Remembers d) :
    (a.guard.drop.run w).2.self.interrupts.InForce d ↔ a.origin.InForce d := by
  obtain ⟨hprevious, horigin⟩ := h
  have hdropped : (a.guard.drop.run w).2.self.interrupts =
      w.self.interrupts.record a.guard.previous := (run_installOrWarn_granted hgrants _).1
  rw [hdropped, hprevious]
  constructor
  · rintro ⟨hrecorded, -⟩
    change a.origin.recorded = d at hrecorded
    rcases horigin with horigin | horigin
    · exact horigin
    · rwa [horigin.1.symm.trans hrecorded] at horigin
  · rintro ⟨hrecorded, -⟩
    rw [hrecorded]
    exact Interrupts.inForce_record _ _

/-- **Guards restore.** Dropped newest first, they keep interrupts ignored as long as one of them is
alive, and leave the first disposition in force whenever none is. Dropped in any order, they leave
one of the two in force; and with the last one the first disposition comes back exactly if that one
was made while it was in force. -/
theorem guards_restore (hstart : start.self.interrupts.InForce d)
    (hgrants : start.GrantsSignals) :
    (∀ alive w, Guarding (· = 0) start alive w →
      (alive ≠ [] → w.self.interrupts.InForce .ignoring) ∧
      (alive = [] → w.self.interrupts.InForce d)) ∧
    (∀ alive w, Guarding (fun _ => True) start alive w →
      (w.self.interrupts.InForce d ∨ w.self.interrupts.InForce .ignoring) ∧
      ∀ a, alive = [a] →
        ((a.guard.drop.run w).2.self.interrupts.InForce d ↔ a.origin.InForce d)) := by
  refine ⟨fun alive w h => ?_, fun alive w h => ?_⟩
  · obtain ⟨hforce, -⟩ := h.inForce_wanted hstart hgrants
    refine ⟨fun hne => ?_, fun hnil => ?_⟩
    · rwa [wanted, if_neg (by simpa using hne)] at hforce
    · rwa [wanted, if_pos (by simpa using hnil)] at hforce
  · obtain ⟨hforce, hremembers⟩ := h.inForce_or hstart hgrants
    refine ⟨hforce, ?_⟩
    rintro a rfl
    exact inForce_drop_iff (h.grantsSignals hgrants) (hremembers a List.mem_cons_self)

/-- Two guards at the prompt, of which the older one is dropped first: the younger one was made
while interrupts were ignored, and leaves them ignored for good. -/
theorem guards_restore_crossed :
    let start : World := { World.bare with self := { World.bare.self with
      interrupts := ⟨.interactive, .handler, .ignore⟩ } }
    ∃ w a, Guarding (fun _ => True) start [a] w ∧ w.self.interrupts.InForce .interactive ∧
      ¬(a.guard.drop.run w).2.self.interrupts.InForce .interactive := by
  intro start
  have hsequence : Guarding (fun _ => True) start _ _ :=
    (Guarding.start.make.make).drop (show [_, _][1]? = some _ from rfl) trivial
  have hinteractive : start.self.interrupts.InForce .interactive := ⟨rfl, rfl⟩
  have hrestore := (guards_restore hinteractive fun _ => rfl).2 _ _ hsequence
  refine ⟨_, _, hsequence, ⟨rfl, rfl⟩, fun hforce => ?_⟩
  exact nomatch ((hrestore.2 _ rfl).1 hforce).1

end Signals

end LineShell
