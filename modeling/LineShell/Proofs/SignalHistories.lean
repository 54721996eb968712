import LineShell.Proofs.FailedLines
import LineShell.Proofs.SignalDiscipline
/-!
# Histories of signal changes

What a process does on an interrupt and on a broken pipe follows from the changes that it has tried
to make, granted or not. `Interrupts.Follows` says how, by the last change of each kind: the real
action belongs to the disposition recorded last, unless a reset has come behind it, which nothing
records.

`Signals.Step` are the steps of the signal coordinator, in any order and with guards dropped in any
order, and `Signals.Step.changes` is what each of them tries to change; a startup tries nothing more
once a change is refused. The headline is `Signals.sequence_follows`.
-/

namespace LineShell

/-! ### Changes -/

namespace Interrupts

/-- A change of the signal actions, and whether the interrupt action in it was granted. -/
inductive Change where
  /-- A disposition is installed. -/
  | installed (d : Disposition) (granted : Bool)
  /-- Both actions go back to their defaults, and nothing is recorded. -/
  | reset (granted : Bool)
  /-- A broken pipe is ignored again. -/
  | resumed
  deriving DecidableEq, Repr

namespace Change

/-- The change has installed a disposition. -/
def Installs (c : Change) : Prop := ∃ d, c = installed d true

/-- The change sets what a broken pipe does, which is never refused. -/
def SetsBrokenPipe (c : Change) : Prop := c = resumed ∨ ∃ granted, c = reset granted

/-- The last change of a kind in a history, with the changes behind it. -/
def Last (p : Change → Prop) (history : List Change) (c : Change) (behind : List Change) : Prop :=
  p c ∧ (∀ d ∈ behind, ¬p d) ∧ ∃ before, history = before ++ c :: behind

variable {p : Change → Prop} {history behind : List Change} {c d : Change}

theorem Last.mem (h : Last p history c behind) : c ∈ history := by
  obtain ⟨-, -, before, rfl⟩ := h
  exact List.mem_append_right _ List.mem_cons_self

/-- A further change is the last one of its kind, and comes behind those of another kind. -/
theorem last_concat : Last p (history ++ [d]) c behind ↔
    (p d ∧ c = d ∧ behind = []) ∨ ¬p d ∧ ∃ b, behind = b ++ [d] ∧ Last p history c b := by
  constructor
  · rintro ⟨hc, hbehind, before, heq⟩
    rcases List.eq_nil_or_concat behind with rfl | ⟨b, e, rfl⟩
    · obtain ⟨-, hd⟩ := List.append_inj' heq rfl
      obtain rfl := List.singleton_inj.1 hd
      exact .inl ⟨hc, rfl, rfl⟩
    · rw [List.concat_eq_append] at heq hbehind ⊢
      rw [← List.cons_append, ← List.append_assoc] at heq
      obtain ⟨hhistory, hd⟩ := List.append_inj' heq rfl
      obtain rfl := List.singleton_inj.1 hd
      have hb : ∀ e ∈ b, ¬p e := fun e he => hbehind e (List.mem_append_left _ he)
      exact .inr ⟨hbehind d (by simp), b, rfl, hc, hb, before, hhistory⟩
  · rintro (⟨hd, rfl, rfl⟩ | ⟨hd, b, rfl, hc, hb, before, rfl⟩)
    · exact ⟨hd, fun _ h => absurd h List.not_mem_nil, history, rfl⟩
    · refine ⟨hc, fun e he => ?_, before, by simp⟩
      rcases List.mem_append.1 he with he | he
      · exact hb e he
      · exact List.mem_singleton.1 he ▸ hd

end Change

open Change

/-- The interrupts that a change leaves. -/
def changed (i : Interrupts) : Change → Interrupts
  | .installed d true => i.record d
  | .installed _ false => i
  | .reset true => { i with sigint := .default, sigpipe := .default }
  | .reset false => { i with sigpipe := .default }
  | .resumed => { i with sigpipe := .ignore }

/-- What a history of changes says about the interrupts that it leaves behind. -/
structure Follows (history : List Change) (i : Interrupts) : Prop where
  /-- With nothing installed, all is as at the start. -/
  untouched : (∀ c ∈ history, ¬Installs c) → i.recorded = .default ∧ i.sigint = .default
  /-- The disposition installed last is recorded. Its action is the real one, unless a reset that
  was granted has come behind it. -/
  installed : ∀ d behind, Last Installs history (.installed d true) behind →
    i.recorded = d ∧ i.sigint = if .reset true ∈ behind then .default else d.action
  /-- A broken pipe has its default exactly behind a reset that nothing has taken up again. -/
  reset : i.sigpipe = .default ↔ ∃ granted behind, Last SetsBrokenPipe history (.reset granted) behind
  /-- Otherwise it is ignored. -/
  ignored : i.sigpipe = .default ∨ i.sigpipe = .ignore

variable {history : List Change} {i : Interrupts}

theorem follows_atStart : Follows [] atStart := by
  have hnone : ∀ {p c behind}, ¬Last p [] c behind := fun h => nomatch h.mem
  exact ⟨fun _ => ⟨rfl, rfl⟩, fun _ _ h => absurd h hnone,
    iff_of_false (fun h => nomatch h) (fun ⟨_, _, h⟩ => hnone h), .inr rfl⟩

/-- A change that installs nothing, and what it does to the real action. -/
theorem Follows.interrupt_changed (h : Follows history i) {c : Change} (hc : ¬Installs c) :
    ((∀ d ∈ history ++ [c], ¬Installs d) →
      (i.changed c).recorded = .default ∧ (i.changed c).sigint = .default) ∧
    ∀ d behind, Last Installs (history ++ [c]) (.installed d true) behind →
      (i.changed c).recorded = d ∧
        (i.changed c).sigint = if .reset true ∈ behind then .default else d.action := by
  have hrecorded : (i.changed c).recorded = i.recorded := by
    rcases c with ⟨d, _ | _⟩ | (_ | _) | _
    · rfl
    · exact absurd ⟨d, rfl⟩ hc
    all_goals rfl
  -- The real action is changed by a reset that was granted, and by nothing else here.
  have hsigint : (i.changed c).sigint = if c = .reset true then .default else i.sigint := by
    rcases c with ⟨d, _ | _⟩ | (_ | _) | _
    · rfl
    · exact absurd ⟨d, rfl⟩ hc
    all_goals rfl
  rw [hrecorded, hsigint]
  constructor
  · intro hnone
    obtain ⟨hdefault, haction⟩ := h.untouched fun d hd => hnone d (List.mem_append_left _ hd)
    rw [haction]
    exact ⟨hdefault, ite_self _⟩
  · intro d behind hlast
    rcases last_concat.1 hlast with ⟨hinstalls, -, -⟩ | ⟨-, b, rfl, hbefore⟩
    -- The change is not the last install, since it installs nothing.
    · exact absurd hinstalls hc
    · obtain ⟨hd, haction⟩ := h.installed d b hbefore
      refine ⟨hd, ?_⟩
      by_cases hreset : c = .reset true
      · simp [hreset]
      · simp [hreset, haction, Ne.symm hreset]

/-- What a change does to broken pipes. -/
theorem Follows.brokenPipe_changed (h : Follows history i) (c : Change) :
    ((i.changed c).sigpipe = .default ↔
      ∃ granted behind, Last SetsBrokenPipe (history ++ [c]) (.reset granted) behind) ∧
    ((i.changed c).sigpipe = .default ∨ (i.changed c).sigpipe = .ignore) := by
  -- A change that sets the action is the last one that does.
  have hset : SetsBrokenPipe c → ((∃ granted behind, Last SetsBrokenPipe (history ++ [c])
      (.reset granted) behind) ↔ ∃ granted, c = .reset granted) := by
    intro hc
    refine exists_congr fun granted => ⟨fun ⟨behind, hlast⟩ => ?_, fun heq => ?_⟩
    · rcases last_concat.1 hlast with ⟨-, heq, -⟩ | ⟨hnot, -⟩
      · exact heq.symm
      · exact absurd hc hnot
    · exact ⟨[], last_concat.2 (.inl ⟨hc, heq.symm, rfl⟩)⟩
  cases c with
  -- Installing an action for interrupts leaves broken pipes alone.
  | installed d granted =>
    have hnot : ¬SetsBrokenPipe (.installed d granted) := by rintro (h | ⟨_, h⟩) <;> cases h
    have hkept : (i.changed (.installed d granted)).sigpipe = i.sigpipe := by
      cases granted <;> rfl
    rw [hkept]
    refine ⟨h.reset.trans (exists_congr fun reset => ⟨fun ⟨b, hlast⟩ => ?_,
      fun ⟨behind, hlast⟩ => ?_⟩), h.ignored⟩
    · exact ⟨b ++ [.installed d granted], last_concat.2 (.inr ⟨hnot, b, rfl, hlast⟩)⟩
    · rcases last_concat.1 hlast with ⟨hsets, -⟩ | ⟨-, b, -, hbefore⟩
      · exact absurd hsets hnot
      · exact ⟨b, hbefore⟩
  | reset granted =>
    have hdefault : (i.changed (.reset granted)).sigpipe = .default := by cases granted <;> rfl
    rw [hset (.inr ⟨granted, rfl⟩)]
    exact ⟨iff_of_true hdefault ⟨granted, rfl⟩, .inl hdefault⟩
  | resumed =>
    rw [hset (.inl rfl)]
    exact ⟨iff_of_false (fun h => nomatch h) (fun ⟨_, h⟩ => nomatch h), .inr rfl⟩

/-- **One change more.** -/
theorem Follows.changed (h : Follows history i) (c : Change) :
    Follows (history ++ [c]) (i.changed c) := by
  obtain ⟨hreset, hignored⟩ := h.brokenPipe_changed c
  by_cases hc : Installs c
  · obtain ⟨d, rfl⟩ := hc
    refine ⟨fun hnone => absurd ⟨d, rfl⟩ (hnone _ (by simp)), fun d' behind hlast => ?_,
      hreset, hignored⟩
    rcases last_concat.1 hlast with ⟨-, heq, rfl⟩ | ⟨hnot, -⟩
    · cases heq
      exact ⟨rfl, rfl⟩
    · exact absurd ⟨d, rfl⟩ hnot
  · obtain ⟨huntouched, hinstalled⟩ := h.interrupt_changed hc
    exact ⟨huntouched, hinstalled, hreset, hignored⟩

theorem Follows.foldl_changed (h : Follows history i) (changes : List Change) :
    Follows (history ++ changes) (changes.foldl Interrupts.changed i) := by
  induction changes generalizing history i with
  | nil =>
    rw [List.append_nil]
    exact h
  | cons c changes ih =>
    rw [List.append_cons]
    exact ih (h.changed c)

end Interrupts

/-! ### Steps -/

/-- Whether the change of the interrupt action that comes behind `n` others will be granted. -/
def World.grants (w : World) (n : Nat) : Bool :=
  (w.faults .signalAction (w.calls.count .signalAction + n)).isNone

namespace Signals

open Interrupts (Change)

/-- An interrupt arrives: a handler writes, and nothing else happens. -/
def handle : Proc Unit := do
  let _ ← Proc.call (Call.write Execution.stdout (← get).self.interrupts.deliver)

/-- The steps of the signal coordinator. Guards are dropped by their place among those alive. -/
inductive Step where
  | install (d : Disposition)
  | startup
  | guard
  | drop (index : Nat)
  | reset
  | resume
  | interrupt
  deriving DecidableEq, Repr

namespace Step

/-- Takes a step; returns the guards that are alive then. -/
def take (guards : List Guard) : Step → Proc (List Guard)
  | install d => do
    let _ ← Signals.install d
    return guards
  | startup => do
    let _ ← Signals.startup
    return guards
  | guard => return guards ++ [← Guard.make]
  | drop index =>
    match guards[index]? with
    | none => return guards
    | some g => do
      g.drop
      return guards.eraseIdx index
  | reset => do
    resetForChild
    return guards
  | resume => do
    let _ ← Signals.resume
    return guards
  | interrupt => do
    handle
    return guards

/-- What a step tries to change, when it is known which changes of the interrupt action will be
granted. A startup stops at the first that is not. -/
def changes (guards : List Guard) (grants : Nat → Bool) : Step → List Change
  | install d => [.installed d (grants 0)]
  | startup =>
    if grants 0 then [.installed .ignoring true, .installed .interactive (grants 1)]
    else [.installed .ignoring false]
  | guard => [.installed .ignoring (grants 0)]
  | drop index => (guards[index]?).toList.map fun g => .installed g.previous (grants 0)
  | reset => [.reset (grants 0)]
  | resume => [.resumed, .installed .interactive (grants 0)]
  | interrupt => []

end Step

variable {w : World}

theorem grants_zero_iff : w.grants 0 = true ↔ w.refusal .signalAction = none :=
  Option.isNone_iff_eq_none

theorem refusal_of_not_grants (h : w.grants 0 = false) :
    ∃ e, w.refusal .signalAction = some e := by
  unfold World.grants at h
  rw [Option.isNone_eq_false_iff] at h
  exact Option.isSome_iff_exists.1 h

theorem installed_eq_changed (w : World) (d : Disposition) :
    w.installed d = w.self.interrupts.changed (.installed d (w.grants 0)) := by
  unfold World.installed
  cases h : w.grants 0 with
  | true =>
    rw [grants_zero_iff.1 h]
    rfl
  | false =>
    obtain ⟨e, he⟩ := refusal_of_not_grants h
    rw [he]
    rfl

theorem interrupts_install (d : Disposition) (w : World) :
    ((install d).run w).2.self.interrupts =
      w.self.interrupts.changed (.installed d (w.grants 0)) := by
  rw [← installed_eq_changed]
  unfold World.installed
  cases h : w.refusal .signalAction with
  | none =>
    rw [run_install_granted h]
    rfl
  | some e =>
    rw [run_install_refused h]
    rfl

theorem interrupts_installOrWarn (d : Disposition) (w : World) :
    ((installOrWarn d).run w).2.self.interrupts =
      w.self.interrupts.changed (.installed d (w.grants 0)) := by
  obtain ⟨records, hrun⟩ := run_installOrWarn d w
  rw [hrun, ← installed_eq_changed]
  rfl

theorem interrupts_resetForChild (w : World) :
    (resetForChild.run w).2.self.interrupts = w.self.interrupts.changed (.reset (w.grants 0)) := by
  rw [run_resetForChild]
  show w.resetInterrupts = _
  unfold World.resetInterrupts
  cases h : w.grants 0 with
  | true =>
    rw [grants_zero_iff.1 h]
    rfl
  | false =>
    obtain ⟨e, he⟩ := refusal_of_not_grants h
    rw [he]
    rfl

theorem interrupts_resume (w : World) :
    (resume.run w).2.self.interrupts =
      (w.self.interrupts.changed .resumed).changed (.installed .interactive (w.grants 0)) := by
  obtain ⟨records, hrun⟩ := run_resume w
  rw [hrun, installed_eq_changed]
  show ({ w.self.interrupts.changed (.installed .interactive (w.grants 0)) with
    sigpipe := .ignore } : Interrupts) = _
  cases w.grants 0 <;> rfl

/-! ### Startups -/

theorem finishPids_calls (pids : List Nat) (w : World) :
    (pids.foldl World.finishPid w).calls = w.calls := by
  induction pids generalizing w with
  | nil => rfl
  | cons pid pids ih =>
    rw [List.foldl_cons, ih]
    exact (Proc.finishPid_calls w pid w.calls).2

theorem calls_poll (w : World) : (Proc.poll.run w).2.calls = w.calls := by
  let v : World := { (w.endings w.polls).foldl World.finishPid w with polls := w.polls + 1 }
  have hfinished : v.calls = w.calls := finishPids_calls _ w
  unfold Proc.poll
  rw [run_bind, run_modify, run_bind, run_get, run_bind, Proc.run_note]
  dsimp only
  split
  · exact hfinished
  · exact hfinished

theorem calls_reapInherited (fuel : Nat) (w : World) :
    ((reapInherited fuel).run w).2.calls = w.calls := by
  induction fuel generalizing w with
  | zero => exact calls_poll w
  | succ fuel ih =>
    have hpoll := calls_poll w
    unfold reapInherited
    rw [run_bind]
    cases (Proc.poll.run w).1 with
    | none => exact hpoll
    | some pid =>
      dsimp only
      rw [run_bind, Proc.run_log]
      exact (ih _).trans hpoll

/-- A startup that may not ignore interrupts does nothing. -/
theorem run_startup_refused {e : Errno} (h : w.refusal .signalAction = some e) :
    startup.run w = (.error (.signal e), w.counting .signalAction) := by
  unfold startup
  rw [run_bind, run_install_refused h]
  rfl

/-- A startup that may goes on, from a world with the same grants, to the handler of the prompt. -/
theorem run_startup_granted (h : w.refusal .signalAction = none) :
    ∃ u, startup.run w = (install .interactive).run u ∧
      u.self.interrupts = w.self.interrupts.record .ignoring ∧ u.grants 0 = w.grants 1 := by
  let v := w.altered (w.self.interrupts.record .ignoring)
    (changeRecords w.self.interrupts.recorded .ignoring) (.signalAction :: w.calls)
  let u := ((reapInherited v.children.length).run v).2
  have hreaped : u.self = v.self ∧ u.faults = v.faults := run_reapInherited _ v
  have hcalls : u.calls = v.calls := calls_reapInherited _ v
  refine ⟨u, ?_, congrArg Process.interrupts hreaped.1, ?_⟩
  · unfold startup
    rw [run_bind, run_install_granted h]
    rfl
  · unfold World.grants
    rw [hreaped.2, hcalls]
    show (w.faults .signalAction ((.signalAction :: w.calls).count .signalAction + 0)).isNone = _
    rw [List.count_cons_self]

/-! ### Sequences of steps -/

/-- **A step changes the interrupts as it tries to.** -/
theorem interrupts_take (guards : List Guard) (step : Step) (w : World) :
    ((step.take guards).run w).2.self.interrupts =
      (step.changes guards w.grants).foldl Interrupts.changed w.self.interrupts := by
  cases step with
  | install d => exact interrupts_install d w
  -- A startup is two changes, the second of which is tried only behind a granted first one.
  | startup =>
    show (startup.run w).2.self.interrupts = _
    unfold Step.changes
    cases h : w.grants 0 with
    | true =>
      obtain ⟨u, hrun, hinterrupts, hgrants⟩ := run_startup_granted (grants_zero_iff.1 h)
      rw [hrun, interrupts_install, hinterrupts, hgrants]
      rfl
    | false =>
      obtain ⟨e, he⟩ := refusal_of_not_grants h
      rw [run_startup_refused he]
      rfl
  | guard => exact interrupts_installOrWarn .ignoring w
  | drop index =>
    unfold Step.take Step.changes
    dsimp only
    cases guards[index]? with
    | none => rfl
    | some g => exact interrupts_installOrWarn g.previous w
  | reset => exact interrupts_resetForChild w
  | resume => exact interrupts_resume w
  | interrupt =>
    show ((Call.write _ _).run w.toContext).2.self.interrupts = _
    rw [Call.run_write]
    rfl

/-- The worlds that sequences of steps reach, with what was tried to change and the guards alive. -/
inductive Sequence (start : World) : List Change → List Guard → World → Prop
  | start : Sequence start [] [] start
  | step {history : List Change} {guards : List Guard} {w : World}
      (h : Sequence start history guards w) (step : Step) :
      Sequence start (history ++ step.changes guards w.grants)
        ((step.take guards).run w).1 ((step.take guards).run w).2

variable {start : World} {history : List Change} {guards : List Guard}

/-- **Recorded and real action agree through every sequence of steps**, except behind a reset: what
is recorded and what is real follow from the changes tried, whatever was granted of them. At any
point an install that is refused changes nothing and says so, and a startup stops at the first
install that is refused. -/
theorem sequence_follows (hstart : start.self.interrupts = .atStart)
    (h : Sequence start history guards w) :
    w.self.interrupts.Follows history ∧
    (∀ d, (w.grants 0 = true → ((install d).run w).1 = .ok ()) ∧
      (w.grants 0 = false → ∃ e, (install d).run w = (.error (.signal e), w.counting .signalAction))) ∧
    (w.grants 0 = false → ∃ e, startup.run w = (.error (.signal e), w.counting .signalAction)) ∧
    (w.grants 0 = true → w.grants 1 = false → ∃ e, (startup.run w).1 = .error (.signal e)) ∧
    (w.grants 0 = true → w.grants 1 = true → (startup.run w).1 = .ok ()) := by
  have hgranted : ∀ (u : World) d, u.grants 0 = true → ((install d).run u).1 = .ok () := by
    intro u d hgrants
    rw [run_install_granted (grants_zero_iff.1 hgrants)]
  have hrefused : ∀ (u : World) d, u.grants 0 = false →
      ∃ e, (install d).run u = (.error (.signal e), u.counting .signalAction) := by
    intro u d hgrants
    obtain ⟨e, he⟩ := refusal_of_not_grants hgrants
    exact ⟨e, run_install_refused he d⟩
  refine ⟨?_, fun d => ⟨hgranted w d, hrefused w d⟩, fun hgrants => ?_, fun hfirst hsecond => ?_,
    fun hfirst hsecond => ?_⟩
  -- By induction on the sequence: each step is a list of changes, and the history ends with it.
  · induction h with
    | start =>
      rw [hstart]
      exact Interrupts.follows_atStart
    | step h step ih =>
      rw [interrupts_take]
      exact ih.foldl_changed _
  · obtain ⟨e, he⟩ := refusal_of_not_grants hgrants
    exact ⟨e, run_startup_refused he⟩
  · obtain ⟨u, hrun, -, hgrants⟩ := run_startup_granted (grants_zero_iff.1 hfirst)
    obtain ⟨e, he⟩ := hrefused u .interactive (hgrants.trans hsecond)
    exact ⟨e, by rw [hrun, he]⟩
  · obtain ⟨u, hrun, -, hgrants⟩ := run_startup_granted (grants_zero_iff.1 hfirst)
    rw [hrun]
    exact hgranted u .interactive (hgrants.trans hsecond)

/-- A guard is made, and outlives a reset and a startup that does not come to its end. Dropping it
puts back what was recorded when it was made. -/
theorem sequence_follows_reset :
    let start : World := { World.bare with
      faults := fun kind n => if kind = .signalAction ∧ n = 3 then some .notPermitted else none }
    let history : List Change := [.installed .ignoring true, .reset true, .installed .ignoring true,
      .installed .interactive false, .installed .default true]
    start.self.interrupts = .atStart ∧
      ∃ w guards, Sequence start history guards w ∧ w.self.interrupts.Follows history := by
  intro start history
  have hstart : Sequence start [] [] start := .start
  have hsequence : Sequence start history _ _ :=
    (((hstart.step .guard).step .reset).step .startup).step (.drop 0)
  exact ⟨rfl, _, _, hsequence, (sequence_follows rfl hsequence).1⟩

end Signals

end LineShell
