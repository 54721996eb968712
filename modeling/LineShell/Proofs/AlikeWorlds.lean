import LineShell.Proofs.AlikeCalls
import LineShell.Proofs.Lines
/-!
# Worlds that differ in how signals and waits fare

Changes of the interrupt action and waits may be refused in one world and granted in another
(`CallKind.IsTolerated`). Two worlds are alike, `World.Alike`, when they refuse the same calls
otherwise, and differ at most in the log and in what their processes do on an interrupt.

The programs that run may differ as well, as long as they end alike where they start: each wait is
in the trace with the context in which its program starts, `Event.awaited?`, and of the contexts in
which two runs start a program, at the same place of their traces, `World.ProgramsAgree` asks that it
ends alike in both. Of other contexts nothing is asked.

`Proc.Relates` is about a computation that is run in two worlds: it answers the same in both, as long
as the programs agree. It is closed under the steps of which the computations of a shell are made.
Between the steps the worlds are alike; the process of the shell itself also has its log open
(`World.Paired`), so that records go where they may differ.
-/

namespace LineShell

variable {α β : Type}

/-- Whether the shell carries on when a call of the kind is refused. -/
def CallKind.IsTolerated (kind : CallKind) : Prop := kind = .signalAction ∨ kind = .wait

instance (kind : CallKind) : Decidable kind.IsTolerated :=
  inferInstanceAs (Decidable (kind = .signalAction ∨ kind = .wait))

/-- A child without what it does on an interrupt. -/
def Child.masked (c : Child) : Child := { c with process := c.process.masked }

/-- An event without the machine, and without what the processes in it do on an interrupt. -/
def Event.masked : Event → Event
  | .waited pid caller children _ =>
    .waited pid caller.masked (children.map Child.masked) (.fresh .empty)
  | .polled found caller => .polled found caller.masked
  | .started argv caller result => .started argv caller.masked result
  | e => e

/-- The program that a wait lets run, with the context in which it starts. -/
def Event.awaited? : Event → Option (Image × Context)
  | .waited pid _ children machine =>
    match children.find? (fun c => c.process.pid == pid) with
    | some ⟨process, .running image⟩ => some (image, ⟨process, machine⟩)
    | _ => none
  | _ => none

/-- Two programs, each in a context of its own, have the same status and leave alike machines. -/
def Call.EndAlike (p : Log.Place) (program program' : Call Status) (c c' : Context) : Prop :=
  (program'.run c').1 = (program.run c).1 ∧
    (program.run c).2.machine.Alike p (program'.run c').2.machine

/-! ### Alike worlds -/

namespace World

variable {p : Log.Place} {u v v' w w' : World}

/-- The worlds differ at most in what the log holds, in what processes do on an interrupt, and in
whether changes of that and waits are refused. -/
structure Alike (p : Log.Place) (w w' : World) : Prop
    extends Context.Alike p w.toContext w'.toContext where
  children : w'.children.map Child.masked = w.children.map Child.masked
  nextPid : w'.nextPid = w.nextPid
  directories : w'.directories = w.directories
  faults : ∀ kind, ¬kind.IsTolerated → w'.faults kind = w.faults kind
  calls : w'.calls = w.calls
  endings : w'.endings = w.endings
  polls : w'.polls = w.polls
  trace : w'.trace.map Event.masked = w.trace.map Event.masked
  log : w.log = p.sink ∧ w'.log = p.sink

/-- A program that two runs have waited for, at the same place of their traces, ends alike in the
contexts in which it started, if these were alike. -/
def ProgramsAgree (p : Log.Place) (userland userland' : Userland) (trace trace' : List Event) :
    Prop :=
  ∀ (i : Nat) (e e' : Event) (image : Image) (c c' : Context),
    trace.reverse[i]? = some e → trace'.reverse[i]? = some e' →
    e.awaited? = some (image, c) → e'.awaited? = some (image, c') → c.Alike p c' →
    Call.EndAlike p (userland image) (userland' image) c c'

/-- They agree on what was there before, since an event keeps its place. -/
theorem ProgramsAgree.of_suffix {u u' : Userland} {t t' s s' : List Event}
    (h : ProgramsAgree p u u' t t') (hs : s <:+ t) (hs' : s' <:+ t') :
    ProgramsAgree p u u' s s' := by
  intro i e e' image c c' he he'
  have hkept : ∀ {s t : List Event} {e : Event}, s <:+ t → s.reverse[i]? = some e →
      t.reverse[i]? = some e := by
    intro s t e hst he
    obtain ⟨hlt, rfl⟩ := List.getElem?_eq_some_iff.1 he
    exact List.prefix_iff_getElem?.1 (List.reverse_prefix.2 hst) i hlt
  exact h i e e' image c c' (hkept hs he) (hkept hs' he')

/-- The second world lies behind the first one. -/
structure Precedes (w w' : World) : Prop where
  userland : w'.userland = w.userland
  trace : w.trace <:+ w'.trace

theorem Precedes.of_eq (huserland : w'.userland = w.userland) (htrace : w'.trace = w.trace) :
    Precedes w w' := ⟨huserland, htrace ▸ List.suffix_rfl⟩

theorem Precedes.trans (h : Precedes u v) (h' : Precedes v w) : Precedes u w :=
  ⟨h'.userland.trans h.userland, h.trace.trans h'.trace⟩

/-- The process has the number of its log open, and behind it the description of the log. -/
def HoldsLog (p : Log.Place) (w : World) : Prop :=
  ∀ sink ∈ p.sink, ∃ handle, Table.get? sink.descriptor w.self.descriptors = some handle ∧
    p.description = some handle.description

/-- The worlds are alike, and the process has its log open. -/
structure Paired (p : Log.Place) (w w' : World) : Prop where
  alike : w.Alike p w'
  holdsLog : w.HoldsLog p

theorem Alike.refusal (h : w.Alike p w') {kind : CallKind} (hkind : ¬kind.IsTolerated) :
    w'.refusal kind = w.refusal kind := by
  unfold World.refusal
  rw [h.faults kind hkind, h.calls]

theorem Alike.counting (h : w.Alike p w') (kind : CallKind) :
    (w.counting kind).Alike p (w'.counting kind) :=
  { h with calls := congrArg (kind :: ·) h.calls }

theorem Alike.withContext (h : w.Alike p w') {c c' : Context} (hcontext : c.Alike p c') :
    Alike p { w with toContext := c } { w' with toContext := c' } :=
  { h with self := hcontext.self, machine := hcontext.machine }

theorem Alike.note (h : w.Alike p w') {e e' : Event} (he : e'.masked = e.masked) :
    Alike p { w with trace := e :: w.trace } { w' with trace := e' :: w'.trace } :=
  { h with trace := by rw [List.map_cons, List.map_cons, he, h.trace] }

theorem HoldsLog.of_descriptors (h : w.HoldsLog p)
    (hdescriptors : v.self.descriptors = w.self.descriptors) : v.HoldsLog p := by
  unfold HoldsLog
  rw [hdescriptors]
  exact h

theorem Alike.holdsLog (h : w.Alike p w') (hholds : w.HoldsLog p) : w'.HoldsLog p :=
  hholds.of_descriptors h.descriptors

/-! ### Log records -/

/-- Records in the log leave the machine alike. -/
theorem HoldsLog.noting (h : w.HoldsLog p) (hlog : w.log = p.sink)
    (hmachine : w.machine.Alike p w.machine) (records : List Log.Record) :
    w.machine.Alike p (w.noting records).machine := by
  refine Machine.foldl_noted_of_written (P := w.machine.Alike p) ?_ records hmachine
  intro sink hsink m bytes hm
  rw [hlog] at hsink
  obtain ⟨handle, hget, hplace⟩ := h sink hsink
  -- The machine is alike to itself by now, and what is written keeps it so.
  exact hm.trans (hm.symm.refl_left.written_log hget hplace bytes)

/-- **Different answers to an interrupt leave worlds alike.** -/
theorem Alike.altered (h : w.Alike p w') {i i' : Interrupts} (hi : i'.sigpipe = i.sigpipe)
    {calls calls' : List CallKind} (hcalls : calls' = calls) :
    (w.altered i [] calls).Alike p (w'.altered i' [] calls') := by
  have hself : { w'.self with interrupts := i' }.masked = { w.self with interrupts := i }.masked := by
    rw [Process.eq_of_masked h.self]
    unfold Process.masked
    dsimp only
    rw [hi]
  exact { h with self := hself, calls := hcalls }

/-- **Different records leave worlds alike** as well. -/
theorem Paired.altered (h : w.Paired p w') {i i' : Interrupts} (hi : i'.sigpipe = i.sigpipe)
    (records records' : List Log.Record) {calls calls' : List CallKind} (hcalls : calls' = calls) :
    (w.altered i records calls).Paired p (w'.altered i' records' calls') := by
  -- Each machine is alike to the one with its own records, and so these are alike as well.
  have hmachine := h.alike.machine
  have hrecords := h.holdsLog.noting h.alike.log.1 hmachine.refl_left records
  have hrecords' := (h.alike.holdsLog h.holdsLog).noting h.alike.log.2 hmachine.symm.refl_left
    records'
  exact ⟨{ h.alike.altered hi hcalls with
    machine := (hrecords.symm.trans hmachine).trans hrecords' }, h.holdsLog⟩

theorem Paired.noting (h : w.Paired p w') (records records' : List Log.Record) :
    (w.noting records).Paired p (w'.noting records') := by
  rw [noting_eq_altered, noting_eq_altered]
  exact h.altered h.alike.sigpipe records records' h.alike.calls

/-! ### Waits -/

/-- The same processes hold descriptors. -/
theorem Alike.holders (h : w.Alike p w') :
    w'.holders.map Process.masked = w.holders.map Process.masked := by
  have hrunning : ∀ cs : List Child, ((cs.filter isRunning).map Child.process).map Process.masked =
      ((cs.map Child.masked).filter isRunning).map Child.process := by
    intro cs
    rw [List.filter_map, List.map_map, List.map_map]
    rfl
  unfold World.holders
  rw [List.map_cons, List.map_cons, hrunning, hrunning, h.children, h.self]

/-- Pipes have readers in both or in neither. -/
theorem Alike.withReaders (h : w.Alike p w') : w.withReaders.Alike p w'.withReaders := by
  have hreader : ∀ pipe, holdsReader w'.machine pipe = holdsReader w.machine pipe := by
    intro pipe
    funext process
    unfold holdsReader
    refine congrArg process.descriptors.any (funext fun e => ?_)
    rcases h.machine.description?_cases e.2.description with ⟨hd, hd'⟩ | ⟨desc, offset, hd, hd', -⟩
    · rw [hd, hd']
    · rw [hd, hd']
  have hany : ∀ pipe, w'.holders.any (holdsReader w.machine pipe) =
      w.holders.any (holdsReader w.machine pipe) := by
    intro pipe
    have hmasked : ∀ ps : List Process, ps.any (holdsReader w.machine pipe) =
        (ps.map Process.masked).any (holdsReader w.machine pipe) := fun ps => by
      rw [List.any_map]
      rfl
    rw [hmasked, hmasked w.holders, h.holders]
  unfold World.withReaders
  rw [h.machine.pipes]
  simp only [hreader, hany]
  exact h.machine.withPipes _

theorem Alike.child? (h : w.Alike p w') (pid : Nat) :
    (w'.child? pid).map Child.masked = (w.child? pid).map Child.masked := by
  have hfind : ∀ cs : List Child,
      (cs.find? fun c => c.process.pid == pid).map Child.masked =
        (cs.map Child.masked).find? fun c => c.process.pid == pid := fun cs => by
    rw [List.find?_map]
    rfl
  unfold World.child?
  rw [hfind, hfind, h.children]

/-- A child that is run to its end ends alike, if its program does. -/
theorem Alike.finish (h : w.Alike p w') {c c' : Child} (hc : c'.masked = c.masked)
    (hends : ∀ image, c.fate = .running image → c'.fate = .running image →
      Call.EndAlike p (w.userland image) (w'.userland image) ⟨c.process, w.withReaders⟩
        ⟨c'.process, w'.withReaders⟩) :
    (w.finish c).1.Alike p (w'.finish c').1 ∧ (w'.finish c').2.masked = (w.finish c).2.masked := by
  obtain ⟨process, fate⟩ := c
  obtain ⟨process', fate'⟩ := c'
  obtain ⟨hprocess, hfate⟩ := Child.mk.inj hc
  obtain rfl : fate' = fate := hfate
  unfold World.finish
  cases fate' with
  -- A child that has ended is left alone.
  | ended status => exact ⟨h, hc⟩
  | running image =>
    -- Only here a program runs, in the two contexts that the hypothesis is about.
    obtain ⟨hstatus, hmachine⟩ := hends image rfl rfl
    rcases hrun : (w.userland image).run ⟨process, w.withReaders⟩ with ⟨status, after⟩
    rcases hrun' : (w'.userland image).run ⟨process', w'.withReaders⟩ with ⟨status', after'⟩
    rw [hrun, hrun'] at hstatus hmachine
    cases hstatus
    dsimp only
    rw [hrun, hrun']
    refine ⟨{ h with machine := hmachine }, ?_⟩
    show Child.mk process'.masked _ = Child.mk process.masked _
    rw [hprocess]

theorem Alike.setChild (h : w.Alike p w') {c c' : Child} (hc : c'.masked = c.masked) :
    (w.setChild c).Alike p (w'.setChild c') := by
  have hmap : ∀ (e : Child) (cs : List Child),
      (cs.map fun d => if d.process.pid == e.process.pid then e else d).map Child.masked =
        (cs.map Child.masked).map fun d =>
          if d.process.pid == e.masked.process.pid then e.masked else d := by
    intro e cs
    rw [List.map_map, List.map_map]
    refine congrArg (cs.map ·) (funext fun d => ?_)
    exact apply_ite Child.masked ..
  refine { h with children := ?_ }
  show (w'.children.map _).map Child.masked = (w.children.map _).map Child.masked
  rw [hmap, hmap, h.children, hc]

theorem Alike.finishPid (h : w.Alike p w') (pid : Nat)
    (hends : ∀ image c c', (Event.waited pid w.self w.children w.withReaders).awaited? =
      some (image, c) → (Event.waited pid w'.self w'.children w'.withReaders).awaited? =
      some (image, c') → c.Alike p c' →
      Call.EndAlike p (w.userland image) (w'.userland image) c c') :
    (w.finishPid pid).Alike p (w'.finishPid pid) := by
  have hchild := h.child? pid
  unfold World.finishPid
  cases hc : w.child? pid with
  | none =>
    rw [hc] at hchild
    rw [Option.map_eq_none_iff.1 hchild]
    exact h
  | some c =>
    rw [hc] at hchild
    obtain ⟨c', hc', hmasked⟩ := Option.map_eq_some_iff.1 hchild
    rw [hc']
    obtain ⟨hprocess, -⟩ := Child.mk.inj hmasked
    -- What the trace shows of the wait is the program of this child with its context.
    have hawaited : ∀ {x : World} {d : Child} {image : Image}, x.child? pid = some d →
        d.fate = .running image → (Event.waited pid x.self x.children x.withReaders).awaited? =
          some (image, ⟨d.process, x.withReaders⟩) := by
      rintro x ⟨process, fate⟩ image hd rfl
      unfold World.child? at hd
      unfold Event.awaited?
      dsimp only
      rw [hd]
    obtain ⟨hafter, hchild⟩ := h.finish hmasked fun image hfate hfate' =>
      hends image _ _ (hawaited hc hfate) (hawaited hc' hfate') ⟨hprocess, h.withReaders⟩
    exact hafter.setChild hchild

theorem Alike.dropChild (h : w.Alike p w') (pid : Nat) :
    (w.dropChild pid).Alike p (w'.dropChild pid) := by
  have hfilter : ∀ cs : List Child, (cs.filter fun c => c.process.pid != pid).map Child.masked =
      (cs.map Child.masked).filter fun c => c.process.pid != pid := fun cs => by
    rw [List.filter_map]
    rfl
  refine { h with children := ?_ }
  show (w'.children.filter _).map Child.masked = (w.children.filter _).map Child.masked
  rw [hfilter, hfilter, h.children]

theorem Alike.trace_length (h : w.Alike p w') : w'.trace.length = w.trace.length := by
  have hlength := congrArg List.length h.trace
  rwa [List.length_map, List.length_map] at hlength

/-- **A child that is waited for ends alike**, whether the wait is granted or not. -/
theorem Alike.run_waitFor (h : w.Alike p w') (pid : Nat)
    (hagree : ProgramsAgree p w.userland w'.userland (w.awaiting pid).trace
      (w'.awaiting pid).trace) :
    ((Proc.waitFor pid).run w).2.Alike p ((Proc.waitFor pid).run w').2 := by
  have hevent : (Event.waited pid w'.self w'.children w'.withReaders).masked =
      (Event.waited pid w.self w.children w.withReaders).masked := by
    unfold Event.masked
    dsimp only
    rw [h.self, h.children]
  -- The wait has the same place in both traces, right behind what was there.
  have hlast : ∀ (x : World), (x.awaiting pid).trace.reverse[x.trace.length]? =
      some (.waited pid x.self x.children x.withReaders) := by
    intro x
    unfold awaiting
    dsimp only
    rw [List.reverse_cons, List.getElem?_append_right (by simp), List.length_reverse, Nat.sub_self]
    rfl
  have hlast' := hlast w'
  rw [h.trace_length] at hlast'
  rw [Proc.run_waitFor, Proc.run_waitFor]
  refine Alike.counting (Alike.dropChild (Alike.finishPid (h.note hevent) pid ?_) pid) .wait
  exact fun image c c' => hagree _ _ _ image c c' (hlast w) hlast'

end World

/-! ### Computations in two worlds -/

/-- Run in worlds that `R` relates, the computation has the same answer in both, and leaves worlds
that `S` relates for the answer, as long as the programs that it waits for agree. -/
structure Proc.Relates (p : Log.Place) (R : World → World → Prop) (act : Proc α)
    (S : α → World → World → Prop) : Prop where
  onward : ∀ w, World.Precedes w (act.run w).2
  related : ∀ w w', R w w' → World.ProgramsAgree p w.userland w'.userland (act.run w).2.trace
      (act.run w').2.trace →
    (act.run w').1 = (act.run w).1 ∧ S (act.run w).1 (act.run w).2 (act.run w').2

namespace Proc

open World

variable {p : Log.Place} {R : World → World → Prop} {S : α → World → World → Prop}
  {T : β → World → World → Prop}

theorem relates_pure {a : α} (h : ∀ w w', R w w' → S a w w') : Relates p R (pure a) S :=
  ⟨fun _ => .of_eq rfl rfl, fun w w' hw _ => ⟨rfl, h w w' hw⟩⟩

theorem Relates.bind {x : Proc α} {f : α → Proc β} (hx : Relates p R x S)
    (hf : ∀ a, Relates p (S a) (f a) T) : Relates p R (x >>= f) T := by
  refine ⟨fun w => (hx.onward w).trans ((hf _).onward _), fun w w' h hagree => ?_⟩
  -- What the first part has waited for keeps its place, so that the programs agree on it as well.
  obtain ⟨heq, hmid⟩ := hx.related w w' h
    (hagree.of_suffix ((hf _).onward _).trace ((hf _).onward _).trace)
  rw [run_bind, run_bind, heq] at hagree ⊢
  rw [← (hx.onward w).userland, ← (hx.onward w').userland] at hagree
  exact (hf _).related _ _ hmid hagree

theorem Relates.mono {R' : World → World → Prop} {S' : α → World → World → Prop} {act : Proc α}
    (h : Relates p R act S) (hbefore : ∀ w w', R' w w' → R w w')
    (hafter : ∀ a w w', S a w w' → S' a w w') : Relates p R' act S' := by
  refine ⟨h.onward, fun w w' hw hagree => ?_⟩
  obtain ⟨heq, hs⟩ := h.related w w' (hbefore w w' hw) hagree
  exact ⟨heq, hafter _ _ _ hs⟩

/-- What holds of no world stays as it is. -/
theorem Relates.frame {act : Proc α} (h : Relates p R act S) (q : Prop) :
    Relates p (fun w w' => R w w' ∧ q) act fun a w w' => S a w w' ∧ q := by
  refine ⟨h.onward, fun w w' hw hagree => ?_⟩
  obtain ⟨heq, hs⟩ := h.related w w' hw.1 hagree
  exact ⟨heq, hs, hw.2⟩

/-- A computation that keeps the numbers of its process keeps the log open. -/
theorem Relates.paired {act : Proc α} (h : Relates p (Alike p) act fun _ => Alike p)
    (hkeeps : ∀ w, (act.run w).2.self.descriptors = w.self.descriptors) :
    Relates p (Paired p) act fun _ => Paired p := by
  refine ⟨h.onward, fun w w' hw hagree => ?_⟩
  obtain ⟨heq, halike⟩ := h.related w w' hw.alike hagree
  exact ⟨heq, halike, hw.holdsLog.of_descriptors (hkeeps w)⟩

theorem relates_self_bind {f : Process → Proc α} (hmasked : ∀ process, f process.masked = f process)
    (halike : ∀ w w', R w w' → w.Alike p w') (hf : ∀ process, Relates p R (f process) S) :
    Relates p R (Proc.self >>= f) S := by
  refine ⟨fun w => (hf w.self).onward w, fun w w' h hagree => ?_⟩
  rw [run_bind, run_bind, run_self, run_self] at hagree ⊢
  dsimp only at hagree ⊢
  rw [← hmasked w'.self, (halike w w' h).self, hmasked] at hagree ⊢
  exact (hf w.self).related w w' h hagree

theorem relates_directories (halike : ∀ w w', R w w' → w.Alike p w') :
    Relates p R Proc.directories fun _ => R := by
  refine ⟨fun _ => .of_eq rfl rfl, fun w w' hw _ => ?_⟩
  rw [run_directories, run_directories]
  exact ⟨(halike w w' hw).directories, hw⟩

theorem relates_call {act : Call α} (h : act.Respects p) :
    Relates p (Alike p) (Proc.call act) fun _ => Alike p := by
  refine ⟨fun w => .of_eq rfl rfl, fun w w' hw _ => ?_⟩
  obtain ⟨heq, hcontext⟩ := h w.toContext w'.toContext hw.toAlike
  rw [run_call, run_call]
  exact ⟨heq, hw.withContext hcontext⟩

theorem relates_note (e : Event) : Relates p (Alike p) (Proc.note e) fun _ => Alike p :=
  ⟨fun w => ⟨rfl, List.suffix_cons e w.trace⟩, fun _ _ hw _ => ⟨rfl, hw.note rfl⟩⟩

/-- **What may be refused alike is answered alike.** -/
theorem Relates.attempt {kind : CallKind} (hkind : ¬kind.IsTolerated)
    {act : Proc (Except Errno α)} (h : Relates p (Alike p) act fun _ => Alike p) :
    Relates p (Alike p) (Proc.attempt kind act) fun _ => Alike p := by
  refine ⟨fun w => ?_, fun w w' hw hagree => ?_⟩
  · cases hrefusal : w.refusal kind with
    | some e =>
      rw [run_attempt_refused hrefusal]
      exact .of_eq rfl rfl
    | none =>
      have honward := h.onward (w.counting kind)
      rw [run_attempt_granted hrefusal]
      exact ⟨honward.userland, honward.trace⟩
  · have hsame := hw.refusal hkind
    cases hrefusal : w.refusal kind with
    | some e =>
      rw [run_attempt_refused hrefusal, run_attempt_refused (hsame.trans hrefusal)]
      exact ⟨rfl, hw.counting kind⟩
    | none =>
      rw [run_attempt_granted hrefusal, run_attempt_granted (hsame.trans hrefusal)] at hagree ⊢
      exact h.related _ _ (hw.counting kind) hagree

theorem relates_log (record : Log.Record) :
    Relates p (Paired p) (Proc.log record) fun _ => Paired p := by
  refine ⟨fun w => ?_, fun w w' hw _ => ?_⟩
  · rw [run_log]
    exact .of_eq rfl rfl
  · rw [run_log, run_log]
    exact ⟨rfl, hw.noting _ _⟩

theorem relates_write (fd : Nat) (text : Text) :
    Relates p (Alike p) (Proc.write fd text) fun _ => Alike p :=
  (relates_call (Call.respects_write fd text.bytes)).bind fun _ => relates_pure fun _ _ h => h

/-- **The same program starts in both.** -/
theorem relates_exec (argv : List Text) :
    Relates p (Alike p) (Proc.exec argv) fun _ => Alike p := by
  have htry : Relates p (Alike p) (tryExec argv) fun _ => Alike p :=
    (relates_call (Call.respects_exec _ _)).attempt (by decide)
  have hshown : ∀ w, ((tryExec argv).run w).2.Precedes ((Proc.exec argv).run w).2 := fun w =>
    ⟨rfl, List.suffix_cons _ _⟩
  refine ⟨fun w => (htry.onward w).trans (hshown w), fun w w' hw hagree => ?_⟩
  obtain ⟨heq, halike⟩ := htry.related w w' hw (hagree.of_suffix (hshown w).trace (hshown w').trace)
  rw [run_exec, run_exec]
  dsimp only
  rw [heq]
  refine ⟨rfl, halike.note ?_⟩
  unfold Event.masked
  dsimp only
  rw [hw.self]

/-- **A child is the same in both** if its code is. -/
theorem relates_fork {body : Proc Fate} (h : Relates p (Alike p) body fun _ => Alike p) :
    Relates p (Paired p) (Proc.fork body) fun _ => Paired p := by
  refine Relates.paired ⟨fun w => ?_, fun w w' hw hagree => ?_⟩ fun w => ?_
  · cases hrefusal : w.refusal .fork with
    | some e =>
      rw [run_fork_refused hrefusal]
      exact .of_eq rfl rfl
    | none =>
      have honward := h.onward w.asChild
      rw [run_fork_granted hrefusal]
      exact ⟨honward.userland, (List.suffix_cons _ w.trace).trans honward.trace⟩
  -- Forks are refused alike, and a granted one runs the code of the child in alike worlds.
  · have hsame : w'.refusal .fork = w.refusal .fork := hw.refusal (by decide)
    cases hrefusal : w.refusal .fork with
    | some e =>
      rw [run_fork_refused hrefusal, run_fork_refused (hsame.trans hrefusal)]
      exact ⟨rfl, hw.counting .fork⟩
    | none =>
      rw [run_fork_granted hrefusal, run_fork_granted (hsame.trans hrefusal)] at hagree ⊢
      have hchild : w.asChild.Alike p w'.asChild := by
        have hself : w'.asChild.self.masked = w.asChild.self.masked := by
          show Process.masked { w'.self with pid := w'.nextPid, parent := w'.self.pid } = _
          rw [Process.eq_of_masked hw.self, hw.nextPid]
          rfl
        have hforked : (Event.forked w'.nextPid).masked = (Event.forked w.nextPid).masked := by
          rw [hw.nextPid]
        exact { hw.note hforked with
          self := hself
          nextPid := congrArg (· + 1) hw.nextPid
          calls := congrArg (CallKind.fork :: ·) hw.calls }
      obtain ⟨hfate, halike⟩ := h.related _ _ hchild hagree
      refine ⟨congrArg Except.ok hw.nextPid, { halike with self := hw.self, children := ?_ }⟩
      show (_ ++ [_]).map Child.masked = (_ ++ [_]).map Child.masked
      rw [List.map_append, List.map_append, halike.children, hfate]
      unfold Child.masked
      dsimp only [List.map]
      rw [halike.self]
  · cases hrefusal : w.refusal .fork with
    | some e => rw [run_fork_refused hrefusal]; rfl
    | none => rw [run_fork_granted hrefusal]

end Proc

/-! ### Signals and waits -/

open World

variable {p : Log.Place}

/-- **The reset before a program starts may be refused.** -/
theorem Signals.relates_resetForChild :
    Proc.Relates p (Alike p) resetForChild fun _ => Alike p := by
  refine ⟨fun w => ?_, fun w w' hw _ => ?_⟩
  · rw [run_resetForChild]
    exact .of_eq rfl rfl
  · rw [run_resetForChild, run_resetForChild]
    refine ⟨rfl, hw.altered ?_ (congrArg _ hw.calls)⟩
    rw [sigpipe_resetInterrupts, sigpipe_resetInterrupts]

/-- **A guard may be refused**, when it is made and when it is dropped. -/
theorem Signals.relates_guarded {act : Proc α}
    (h : Proc.Relates p (Paired p) act fun _ => Paired p) :
    Proc.Relates p (Paired p) (Signals.guarded act) fun _ => Paired p := by
  refine ⟨fun w => ?_, fun w w' hw hagree => ?_⟩
  · obtain ⟨before, after, hrun⟩ := run_guarded act w
    have honward := h.onward (w.altered (w.installed .ignoring) before (.signalAction :: w.calls))
    rw [hrun]
    exact ⟨honward.userland, honward.trace⟩
  · obtain ⟨before, after, hrun⟩ := run_guarded act w
    obtain ⟨before', after', hrun'⟩ := run_guarded act w'
    rw [hrun, hrun'] at hagree ⊢
    have hsigpipe : (w'.installed .ignoring).sigpipe = (w.installed .ignoring).sigpipe := by
      rw [sigpipe_installed, sigpipe_installed, hw.alike.sigpipe]
    have hmade := hw.altered hsigpipe before before'
      (congrArg (CallKind.signalAction :: ·) hw.alike.calls)
    obtain ⟨heq, hafter⟩ := h.related _ _ hmade hagree
    refine ⟨heq, hafter.altered ?_ after after' (congrArg _ hafter.alike.calls)⟩
    rw [sigpipe_installed, sigpipe_installed, hafter.alike.sigpipe]

/-- **A wait may be refused.** -/
theorem Execution.relates_waitFor (pid : Nat) :
    Proc.Relates p (Paired p) (waitFor pid) fun _ => Paired p := by
  -- The answers may differ, and then the records do; nothing else depends on them.
  have hrun : ∀ w, ∃ records, (waitFor pid).run w =
      ((), ((Proc.waitFor pid).run w).2.noting records) := by
    intro w
    unfold waitFor
    rw [run_bind]
    cases ((Proc.waitFor pid).run w).1 with
    | ok status => exact ⟨[_], Proc.run_log _ _⟩
    | error e => exact ⟨[_], Proc.run_log _ _⟩
  have hshown : ∀ w : World, (w.awaiting pid).Precedes ((Proc.waitFor pid).run w).2 := by
    intro w
    obtain ⟨m, children, hfinish, -⟩ := World.finishPid_eq (w.awaiting pid) pid
    rw [Proc.run_waitFor, hfinish]
    exact .of_eq rfl rfl
  refine ⟨fun w => ?_, fun w w' hw hagree => ?_⟩
  · obtain ⟨records, h⟩ := hrun w
    have hnoted : w.Precedes (w.awaiting pid) := ⟨rfl, List.suffix_cons _ _⟩
    rw [h]
    exact (hnoted.trans (hshown w)).trans (.of_eq rfl rfl)
  · obtain ⟨records, h⟩ := hrun w
    obtain ⟨records', h'⟩ := hrun w'
    rw [h, h'] at hagree ⊢
    have hawaited := hagree.of_suffix (hshown w).trace (hshown w').trace
    have hpaired : Paired p ((Proc.waitFor pid).run w).2 ((Proc.waitFor pid).run w').2 :=
      ⟨hw.alike.run_waitFor pid hawaited, hw.holdsLog.of_descriptors
        (congrArg Process.descriptors (Proc.waited_waitFor pid w).self)⟩
    exact ⟨rfl, hpaired.noting records records'⟩

end LineShell
