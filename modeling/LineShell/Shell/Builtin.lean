import LineShell.Shell.Execution
/-!
# Built-in commands

Four names run inside the shell: `cd`, `exec`, `exit` and `help`. They are matched exactly, and the
rest of the line, a second stage or a target, is never looked at.
-/

namespace LineShell.Builtin

/-- The source of this module's log records. -/
def source : Text := Text.lit "bosh::builtins"

/-- What offering a command to the built-ins comes to. -/
inductive Outcome where
  | notBuiltin
  | handled
  | exit
  /-- The shell has become another program. -/
  | replaced (image : Image)
  deriving DecidableEq, Repr

/-- The text of `help`. -/
def help : Text := Text.lit "
--- Welcome to BOSH, the Barebones Operating-system SHell ---
 A minimal and simple shell.

Builtins:
- cd <dir>          : Change directory
- exec <cmd> [args] : Replace the shell with cmd
- exit              : Exit the shell
- help              : Show this help

Syntax:
- cmd1 | cmd2       : Pipe output of cmd1 into cmd2
- cmd > file        : Redirect output to file (overwrite)
- cmd >> file       : Redirect output to file (append)
- $NAME             : Value of environment variable NAME
- # text            : Comment to end of line
"

/-- A tilde alone or before a slash stands for the home directory, if there is one whose name is
text. -/
def expandTilde (home : Option Bytes) : Text → Text
  | '~' :: rest =>
    if rest.isEmpty || rest.head? == some '/' then
      match home.bind Text.Utf8.decode? with
      | some home => home ++ rest
      | none => '~' :: rest
    else '~' :: rest
  | path => path

/-- Moves to a path as an operand writes it. -/
def moveTo (operand : Text) : Proc (Except ShellError Unit) := do
  let directories ← Proc.directories
  let path := expandTilde (directories.home (← Proc.self).environment) operand
  if path.contains '\x00' then return .error (.changeDir operand .nulInPath)
  else match ← Proc.changeDirectory path.bytes with
    | .error e => return .error (.changeDir operand (.call e))
    | .ok () => return .ok ()

/-- Changes the working directory and publishes it. -/
def cd (operand : Option Text) : Attempt Unit := do
  match operand with
  | none => throw .missingOperand
  | some operand =>
    Attempt.ofProc (moveTo operand)
    Shell.syncCwd

/-- Becomes a program; without a command nothing happens. -/
def exec (v : ArgVector) : Attempt Outcome := do
  if v.isEmpty then return .handled
  else return .replaced (← Attempt.ofProc (Execution.replaceImage v))

/-- The name of an outcome in the log. -/
def Outcome.name : Outcome → Text
  | .notBuiltin => Text.lit "NotBuiltin"
  | .handled => Text.lit "Handled"
  | .exit => Text.lit "Exit"
  | .replaced _ => Text.lit "Handled"

/-- Runs the built-in of a name. -/
def run (command : Text) (v : ArgVector) : Attempt Outcome := do
  if command = Text.lit "exit" then return .exit
  else if command = Text.lit "cd" then
    cd (v.arg? 1)
    return .handled
  else if command = Text.lit "help" then
    (Proc.write Execution.stdout (help ++ ['\n']) : Proc Unit)
    return .handled
  else if command = Text.lit "exec" then exec (v.shifted 1)
  else return .notBuiltin

/-- Runs a vector inside the shell if it names a built-in. -/
def dispatch (v : ArgVector) : Attempt Outcome := do
  match v.command? with
  | none => return .handled
  | some command =>
    let outcome ← run command v
    match outcome with
    | .replaced _ => pure ()
    | _ => (Proc.log ⟨.debug, source, Text.lit "dispatch",
        [Log.Record.quoted "command" command,
          Log.Record.field "result" outcome.name]⟩ : Proc Unit)
    return outcome

end LineShell.Builtin
