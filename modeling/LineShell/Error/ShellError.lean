import LineShell.Error.IoError
import LineShell.Line.Shape
import LineShell.Text.Quoted
/-!
# What can go wrong with a line

The causes for which a line fails in the shell itself, and the wording of each. None of them ends a
session.

`ShellError.ofExec` sorts a failed program start by the number of the failure.
-/

namespace LineShell

/-- Why a line failed. -/
inductive ShellError where
  | missingOperand
  | changeDir (path : Text) (source : IoError)
  | workingDir (source : Errno)
  | fork (source : Errno)
  | pipe (source : Errno)
  | signal (source : Errno)
  | missingTarget (mode : RedirectMode)
  | emptyPipeStage
  | nulByte (argument : Text)
  | execPermissionDenied (command : Text)
  | execNotFound (command : Text)
  | execFailed (command : Text) (source : Errno)
  deriving DecidableEq, Repr

namespace ShellError

/-- The error of a command whose program could not be started. -/
def ofExec (command : Text) (number : Errno) : ShellError :=
  if number = Errno.accessDenied then execPermissionDenied command
  else if number = Errno.noEntry then execNotFound command
  else execFailed command number

/-- The wording of each error. -/
def message : ShellError → Text
  | missingOperand => Text.lit "cd: missing operand"
  | changeDir path source => Text.lit "cd: " ++ path ++ Text.lit ": " ++ source.message
  | workingDir source =>
    Text.lit "bosh: cannot determine working directory: " ++ source.message
  | fork source => Text.lit "bosh: could not fork: " ++ source.message
  | pipe source => Text.lit "bosh: pipe could not be initialized: " ++ source.message
  | signal source => Text.lit "bosh: could not install interrupt handler: " ++ source.message
  | missingTarget mode =>
    Text.lit "bosh: syntax error: missing redirection target after `" ++ mode.operator ++ ['\x60']
  | emptyPipeStage => Text.lit "bosh: syntax error: empty command next to `|`"
  | nulByte argument =>
    Text.lit "bosh: argument contains a NUL byte: " ++ Text.Quoted.encode argument
  | execPermissionDenied command =>
    Text.lit "exec: " ++ command ++ Text.lit ": permission denied"
  | execNotFound command => Text.lit "exec: " ++ command ++ Text.lit ": file does not exist"
  | execFailed command source =>
    Text.lit "exec: unable to exec " ++ command ++ Text.lit ": " ++ source.message

end ShellError

end LineShell
