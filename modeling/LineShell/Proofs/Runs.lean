import LineShell.Session.Basic
/-!
# What runs come to

Computations of a process and of a shell are functions of the world. This module turns the calls of
a process into equations: what each one answers, and which parts of the world it replaces.

* `run_bind` and `Attempt.start_bind` open a computation step by step.
* `World.noting` is the world in which log records have been written; a write changes nothing but
  the machine (`Proc.run_log`, `Proc.run_write`).
* What everything that is written to a log keeps, its records keep
  (`Machine.foldl_noted_of_written`).
* `Proc.run_attempt_granted` and `Proc.run_attempt_refused` say what becomes of a call that may be
  refused.
-/

namespace LineShell

variable {α β : Type}

/-! ### Computations step by step -/

theorem run_pure {σ : Type} (a : α) (s : σ) : (pure a : StateM σ α).run s = (a, s) := rfl

theorem run_bind {σ : Type} (x : StateM σ α) (f : α → StateM σ β) (s : σ) :
    (x >>= f).run s = (f (x.run s).1).run (x.run s).2 := rfl

theorem run_get {σ : Type} (s : σ) : (get : StateM σ σ).run s = (s, s) := rfl

theorem run_set {σ : Type} (s t : σ) : (set t : StateM σ PUnit).run s = (⟨⟩, t) := rfl

theorem run_modify {σ : Type} (f : σ → σ) (s : σ) :
    (modify f : StateM σ PUnit).run s = (⟨⟩, f s) := rfl

namespace Proc

theorem run_self (w : World) : Proc.self.run w = (w.self, w) := rfl

theorem run_directories (w : World) : Proc.directories.run w = (w.directories, w) := rfl

theorem run_note (e : Event) (w : World) :
    (Proc.note e).run w = ((), { w with trace := e :: w.trace }) := rfl

theorem run_call (act : Call α) (w : World) :
    (Proc.call act).run w =
      ((act.run w.toContext).1, { w with toContext := (act.run w.toContext).2 }) := rfl

end Proc

namespace Attempt

theorem start_get (shell : Shell) (w : World) :
    ((get : Attempt Shell).start shell).run w = ((.ok shell, shell), w) := rfl

theorem start_lift (act : Proc α) (shell : Shell) (w : World) :
    ((liftM act : Attempt α).start shell).run w =
      ((.ok (act.run w).1, shell), (act.run w).2) := rfl

theorem start_bind (x : Attempt α) (f : α → Attempt β) (shell : Shell) (w : World) :
    ((x >>= f).start shell).run w =
      match (x.start shell).run w with
      | ((.ok a, shell), w) => ((f a).start shell).run w
      | ((.error e, shell), w) => ((.error e, shell), w) := by
  show ((ExceptT.bindCont f ((x.start shell).run w).1.1).run ((x.start shell).run w).1.2).run
      ((x.start shell).run w).2 = _
  rcases (x.start shell).run w with ⟨⟨_ | _, _⟩, _⟩ <;> rfl

theorem start_ofProc (act : Proc (Except ShellError α)) (shell : Shell) (w : World) :
    ((Attempt.ofProc act).start shell).run w = (((act.run w).1, shell), (act.run w).2) := by
  unfold Attempt.ofProc
  rw [start_bind, start_lift]
  rcases (act.run w) with ⟨_ | _, _⟩ <;> rfl

end Attempt

/-! ### Writes and the log -/

/-- The machine after a process with these open numbers has written to one of them. -/
def Machine.written (table : DescriptorTable) (fd : Nat) (bytes : Bytes) (m : Machine) : Machine :=
  match Table.get? fd table with
  | none => m
  | some h =>
    match m.writeTo h.description bytes with
    | .error _ => m
    | .ok m => m

/-- The machine after a record has gone to a log, if there is one that shows it. -/
def Machine.noted (log : Option Log.Sink) (table : DescriptorTable) (m : Machine)
    (record : Log.Record) : Machine :=
  match log with
  | none => m
  | some sink =>
    if record.isShownBy sink.filter then
      m.written table sink.descriptor (record.line sink.time).bytes
    else m

namespace Machine

/-- What is written goes behind the description that the number leads to, or nowhere. -/
theorem written_cases (t : DescriptorTable) (fd : Nat) (bytes : Bytes) (m : Machine) :
    m.written t fd bytes = m ∨ ∃ handle, Table.get? fd t = some handle ∧
      m.writeTo handle.description bytes = .ok (m.written t fd bytes) := by
  unfold written
  cases Table.get? fd t with
  | none => exact .inl rfl
  | some handle =>
    dsimp only
    cases hwrite : m.writeTo handle.description bytes with
    | error e => exact .inl rfl
    | ok m' => exact .inr ⟨handle, rfl, hwrite⟩

/-- **What is kept by everything that is written to a log is kept by its records.** -/
theorem foldl_noted_of_written {P : Machine → Prop} {log : Option Log.Sink} {t : DescriptorTable}
    (hwritten : ∀ sink ∈ log, ∀ m bytes, P m → P (m.written t sink.descriptor bytes))
    (records : List Log.Record) {m : Machine} (hm : P m) : P (records.foldl (noted log t) m) := by
  induction records generalizing m with
  | nil => exact hm
  | cons record records ih =>
    refine ih ?_
    unfold noted
    cases log with
    | none => exact hm
    | some sink =>
      dsimp only
      split
      · exact hwritten sink rfl m _ hm
      · exact hm

end Machine

namespace World

/-- The world in which records have gone to the log. -/
def noting (w : World) (records : List Log.Record) : World :=
  { w with machine := records.foldl (Machine.noted w.log w.self.descriptors) w.machine }

@[simp] theorem noting_nil (w : World) : w.noting [] = w := rfl

@[simp] theorem noting_noting (w : World) (records more : List Log.Record) :
    (w.noting records).noting more = w.noting (records ++ more) := by
  unfold noting
  rw [List.foldl_append]

end World

theorem Call.run_write (fd : Nat) (bytes : Bytes) (c : Context) :
    ((Call.write fd bytes).run c).2 =
      { c with machine := c.machine.written c.self.descriptors fd bytes } := by
  show ((match Table.get? fd c.self.descriptors with
    | none => (pure (.error .badDescriptor) : Call (Except Errno Unit))
    | some h => do
      let c ← get
      match c.machine.writeTo h.description bytes with
      | .error e => return .error e
      | .ok m => set { c with machine := m }; return .ok ()).run c).2 = _
  unfold Machine.written
  cases Table.get? fd c.self.descriptors with
  | none => rfl
  | some h =>
    show ((match c.machine.writeTo h.description bytes with
      | .error e => (pure (.error e) : Call (Except Errno Unit))
      | .ok m => do set { c with machine := m }; return .ok ()).run c).2 = _
    dsimp only
    cases c.machine.writeTo h.description bytes <;> rfl

namespace Proc

/-- **A write changes the machine alone.** -/
theorem run_write (fd : Nat) (text : Text) (w : World) :
    (Proc.write fd text).run w =
      ((), { w with machine := w.machine.written w.self.descriptors fd text.bytes }) := by
  unfold Proc.write
  rw [run_bind, run_call, Call.run_write]
  rfl

/-- **A log record changes the machine alone.** -/
theorem run_log (record : Log.Record) (w : World) :
    (Proc.log record).run w = ((), w.noting [record]) := by
  obtain ⟨c, children, nextPid, userland, directories, faults, calls, endings, polls, trace, log⟩ := w
  cases log with
  | none => rfl
  | some sink =>
    unfold Proc.log World.noting Machine.noted
    rw [run_bind, run_get]
    dsimp only [List.foldl]
    split
    · rw [run_bind, run_call, Call.run_write]
      rfl
    · rfl

theorem run_forM_log (record : α → Log.Record) (as : List α) (w : World) :
    (as.forM fun a => Proc.log (record a)).run w = ((), w.noting (as.map record)) := by
  induction as generalizing w with
  | nil => rfl
  | cons a as ih =>
    show (Proc.log (record a) >>= fun _ => as.forM fun a => Proc.log (record a)).run w = _
    rw [run_bind, run_log, ih, World.noting_noting]
    rfl

end Proc

/-! ### Calls that may be refused -/

namespace World

/-- Why the next call of a kind is refused, if it is. -/
def refusal (w : World) (kind : CallKind) : Option Errno := w.faults kind (w.calls.count kind)

/-- The world with one more call counted. -/
def counting (w : World) (kind : CallKind) : World := { w with calls := kind :: w.calls }

end World

namespace Proc

theorem run_attempt_refused {kind : CallKind} {w : World} {e : Errno} (h : w.refusal kind = some e)
    (act : Proc (Except Errno α)) :
    (Proc.attempt kind act).run w = (.error e, w.counting kind) := by
  unfold World.refusal at h
  unfold Proc.attempt
  rw [run_bind, run_get, run_bind, run_set, h]
  rfl

theorem run_attempt_granted {kind : CallKind} {w : World} (h : w.refusal kind = none)
    (act : Proc (Except Errno α)) :
    (Proc.attempt kind act).run w = act.run (w.counting kind) := by
  unfold World.refusal at h
  unfold Proc.attempt
  rw [run_bind, run_get, run_bind, run_set, h]
  rfl

end Proc

end LineShell
