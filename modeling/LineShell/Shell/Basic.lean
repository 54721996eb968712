import LineShell.Line.Plan
import LineShell.Shell.Signals
/-!
# The memory of a shell

A shell remembers its working directory and the cap on words. `Attempt` is a computation of the
shell that may fail with a `ShellError`; a failure keeps what was changed before it.
-/

namespace LineShell

/-- What a shell remembers between two lines. -/
structure Shell where
  cwd : Bytes
  /-- How many words of a segment get a slot; at least one. -/
  maxArgs : Nat
  deriving DecidableEq, Repr

/-- A computation of the shell. -/
abbrev Attempt := ExceptT ShellError (StateT Shell Proc)

/-- Whether lines go on being read. -/
inductive Flow where
  | proceed
  | exit
  /-- The shell has become another program. -/
  | replaced (image : Image)
  deriving DecidableEq, Repr

namespace Attempt

/-- A computation of the process that may fail with a shell error. -/
def ofProc {α : Type} (act : Proc (Except ShellError α)) : Attempt α := do
  match ← (act : Proc _) with
  | .ok a => return a
  | .error e => throw e

/-- Runs a computation of the shell from a given memory. -/
def start {α : Type} (act : Attempt α) (shell : Shell) : Proc (Except ShellError α × Shell) :=
  act.run.run shell

end Attempt

namespace Shell

/-- Re-reads the working directory and publishes it as `PWD`. -/
def syncCwd : Attempt Unit := do
  match ← (Proc.workingDirectory : Proc _) with
  | .error e => throw (.workingDir e)
  | .ok cwd =>
    (Proc.call (Call.setVariable (Text.lit "PWD") cwd) : Proc Unit)
    (Proc.log ⟨.debug, Text.lit "bosh::shell", Text.lit "working directory changed",
      [Log.Record.field "cwd" cwd.text]⟩ : Proc Unit)
    modify fun shell => { shell with cwd := cwd }

/-- A shell in the present working directory. -/
def new (maxArgs : Nat) : Proc (Except ShellError Shell) := do
  match ← Proc.workingDirectory with
  | .error e => return .error (.workingDir e)
  | .ok cwd => return .ok ⟨cwd, max maxArgs 1⟩

/-- Advertises the program of the shell to its children. -/
def publish (path : Bytes) : Proc Unit := Proc.call (Call.setVariable (Text.lit "SHELL") path)

end Shell

end LineShell
