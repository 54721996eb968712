import LineShell.Error.ShellError
import LineShell.Machine.World
/-!
# Interrupt discipline

At the prompt an interrupt writes a new line; while the shell waits for a command it is ignored, so
that it reaches the command alone. A *guard* brackets every wait: it remembers the recorded
disposition, ignores interrupts, and puts back what it remembers when it is dropped. A child undoes
all this before it starts a program (`resetForChild`); when the shell itself fails to start one it
takes it up again (`resume`).

A change of the interrupt action may be refused. `install` then changes nothing and says so; guards
and the reset carry on.
-/

namespace LineShell.Signals

/-- The source of this module's log records. -/
def source : Text := Text.lit "bosh::signals"

/-- Sets the interrupt action, unless that is refused. -/
def setAction (action : SignalAction) : Proc (Except Errno Unit) :=
  Proc.attempt .signalAction do
    modify fun w => { w with self := { w.self with
      interrupts := { w.self.interrupts with sigint := action } } }
    return .ok ()

/-- Sets what a broken pipe does; this is never refused. -/
def setBrokenPipe (action : SignalAction) : Proc Unit :=
  modify fun w => { w with self := { w.self with
    interrupts := { w.self.interrupts with sigpipe := action } } }

/-- The disposition that was installed last. -/
def recorded : Proc Disposition := return (← get).self.interrupts.recorded

/-- Notes the disposition that has been installed. -/
def setRecorded (d : Disposition) : Proc Unit :=
  modify fun w => { w with self := { w.self with
    interrupts := { w.self.interrupts with recorded := d } } }

/-- The name of a disposition in the log. -/
def name : Disposition → Text
  | .default => Text.lit "Default"
  | .ignoring => Text.lit "Ignoring"
  | .interactive => Text.lit "Interactive"

/-- Installs and records a disposition. -/
def install (d : Disposition) : Proc (Except ShellError Unit) := do
  match ← setAction d.action with
  | .error e => return .error (.signal e)
  | .ok () =>
    let previous ← recorded
    setRecorded d
    if previous ≠ d then
      Proc.log ⟨.debug, source, Text.lit "SIGINT disposition changed",
        [Log.Record.field "previous" (name previous), Log.Record.field "disposition" (name d)]⟩
    return .ok ()

/-- Takes away children that have ended, until there is none; each round takes one of them. -/
def reapInherited : Nat → Proc Unit
  | 0 => do
    let _ ← Proc.poll
  | fuel + 1 => do
    match ← Proc.poll with
    | none => pure ()
    | some pid =>
      Proc.log ⟨.debug, source, Text.lit "reaped inherited child", [Log.Record.count "pid" pid]⟩
      reapInherited fuel

/-- The start of a session: inherited children are taken away while interrupts are ignored, then
the handler of the prompt is installed. -/
def startup : Proc (Except ShellError Unit) := do
  match ← install .ignoring with
  | .error e => return .error e
  | .ok () =>
    reapInherited (← get).children.length
    install .interactive

/-- Puts the signal actions back to their defaults, with nothing recorded. -/
def resetForChild : Proc Unit := do
  let _ ← setAction .default
  setBrokenPipe .default

/-- Takes up again what `resetForChild` has undone. -/
def resume : Proc (Except ShellError Unit) := do
  setBrokenPipe .ignore
  install .interactive

/-- A guard remembers the disposition to put back. -/
structure Guard where
  previous : Disposition
  deriving DecidableEq, Repr

/-- Installs a disposition, or warns that it could not. -/
def installOrWarn (d : Disposition) : Proc Unit := do
  match ← install d with
  | .ok () => pure ()
  | .error e => Proc.log ⟨.warn, source, e.message, []⟩

/-- Makes a guard: interrupts are ignored from here on. -/
def Guard.make : Proc Guard := do
  let previous ← recorded
  installOrWarn .ignoring
  return ⟨previous⟩

/-- Drops a guard: what was recorded before it is installed. -/
def Guard.drop (g : Guard) : Proc Unit := installOrWarn g.previous

/-- Runs an action with interrupts ignored. -/
def guarded {α : Type} (act : Proc α) : Proc α := do
  let g ← Guard.make
  let a ← act
  g.drop
  return a

end LineShell.Signals
