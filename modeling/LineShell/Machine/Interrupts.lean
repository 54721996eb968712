/-!
# Interrupts

What a process does on an interrupt from the keyboard, kept twice: the *action* that is really
installed, and the *disposition* that the shell has recorded. They agree while every change is made
by `record`; `resetForChild` changes the actions alone, as a child does right before it starts a
program.
-/

namespace LineShell

/-- What the shell means to do on an interrupt. -/
inductive Disposition where
  /-- As inherited: the process ends. -/
  | default
  /-- Nothing, while a command runs in the foreground. -/
  | ignoring
  /-- A new line, at the prompt. -/
  | interactive
  deriving DecidableEq, Repr

/-- What a process really does on a signal. -/
inductive SignalAction where
  | default
  | ignore
  | handler
  deriving DecidableEq, Repr

/-- The action that belongs to a disposition. -/
def Disposition.action : Disposition → SignalAction
  | default => .default
  | ignoring => .ignore
  | interactive => .handler

/-- The signal state of a process. -/
structure Interrupts where
  recorded : Disposition
  sigint : SignalAction
  sigpipe : SignalAction
  deriving DecidableEq, Repr

namespace Interrupts

/-- At the start of a shell a broken pipe is ignored already. -/
def atStart : Interrupts := ⟨.default, .default, .ignore⟩

/-- A disposition is installed and recorded. -/
def record (i : Interrupts) (d : Disposition) : Interrupts :=
  { i with recorded := d, sigint := d.action }

/-- What starting a program leaves of the actions: a handler belongs to the old program. -/
def atExec (i : Interrupts) : Interrupts :=
  let keep : SignalAction → SignalAction := fun a => if a = .handler then .default else a
  ⟨.default, keep i.sigint, keep i.sigpipe⟩

/-- What the process writes when an interrupt arrives, nothing when it takes no notice. The default
action would end the process, so it has no answer here. -/
def deliver (i : Interrupts) : List UInt8 :=
  if i.sigint = .handler then [10] else []

end Interrupts

end LineShell
