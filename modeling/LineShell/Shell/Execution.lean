import LineShell.Shell.Basic
/-!
# Running programs

Three ways to run a plan in children, and one to become a program.

* Arguments are checked for NUL characters before anything is done (`argv`); the order is
  left stage before right stage, arguments before target.
* A child that cannot start its program says so on the shell's own output: `saveOutput` keeps it
  while the output of the child is a pipe or a target, and `restoreOutput` brings it back.
* The shell waits with interrupts ignored and holds no end of a pipe meanwhile.
-/

namespace LineShell.Execution

/-- The source of this module's log records. -/
def source : Text := Text.lit "bosh::process_exec"

/-- Standard input. -/
abbrev stdin : Nat := 0

/-- Standard output. -/
abbrev stdout : Nat := 1

/-- Standard error. -/
abbrev stderr : Nat := 2

/-- A text without NUL characters, or the error that it has one. -/
def withoutNul (t : Text) : Except ShellError Text :=
  if t.contains '\x00' then .error (.nulByte t) else .ok t

/-- The arguments as a program receives them: the first one with a NUL character is an error. -/
def argv (v : ArgVector) : Except ShellError (List Text) := v.args.mapM withoutNul

/-- The name of the program in messages, empty when there are no arguments. -/
def program (args : List Text) : Text := args.head?.getD []

/-- Starts a program in this process. Without arguments there is nothing that could be started. -/
def start (args : List Text) : Proc (Except Errno Image) :=
  if args.isEmpty then return .error .noEntry else Proc.exec args

/-- What a child writes when it cannot start its program. -/
def simpleDiagnostic (args : List Text) : Text :=
  Text.lit "\nError: " ++ program args ++ Text.lit " is not a valid command\n"

/-- What a stage of a pipeline writes when it cannot start its program. -/
def stageDiagnostic (stage : Nat) (args : List Text) : Text :=
  Text.lit "\nCould not execute command " ++ Text.ofNat stage ++ Text.lit ": " ++ program args ++
    ['\n']

/-- What a child writes when it cannot open its target. -/
def openDiagnostic (target : Text) : Text := Text.lit "\nCould not open " ++ target ++ ['\n']

/-- What a child with a target writes when it cannot start its program. -/
def redirectDiagnostic (args : List Text) : Text :=
  Text.lit "\nCould not execute " ++ program args ++ ['\n']

/-- A report on the output of this process, and the end of a child. -/
def report (message : Text) : Proc Fate := do
  Proc.write stdout message
  return .ended (.exited 0)

/-- Keeps the present output, if a number is free. -/
def saveOutput : Proc (Option Nat) := do
  -- The kept number ends with this program, so a program that starts never sees it.
  match ← Proc.duplicate stdout true with
  | .ok fd => return some fd
  | .error _ => return none

/-- Brings a kept output back. -/
def restoreOutput : Option Nat → Proc Unit
  | none => pure ()
  | some fd => do
    Proc.duplicateTo fd stdout
    Proc.close fd

/-- Starts a program in a child, or reports that this failed. -/
def startOr (args : List Text) (recover : Proc Unit) (diagnostic : Text) : Proc Fate := do
  match ← start args with
  | .ok image => return .running image
  | .error _ =>
    recover
    report diagnostic

/-- Waits for a child. -/
def waitFor (pid : Nat) : Proc Unit := do
  match ← Proc.waitFor pid with
  | .ok status =>
    Proc.log ⟨.debug, source, Text.lit "child terminated",
      [Log.Record.count "pid" pid, Log.Record.count "status" status.packed]⟩
  | .error e =>
    Proc.log ⟨.debug, source, Text.lit "waitpid: " ++ e.message, [Log.Record.count "pid" pid]⟩

/-- The child of a simple command. -/
def simpleChild (args : List Text) : Proc Fate := do
  Signals.resetForChild
  startOr args (pure ()) (simpleDiagnostic args)

/-- Runs one command. -/
def runSimple (v : ArgVector) : Proc (Except ShellError Unit) := do
  match argv v with
  | .error e => return .error e
  | .ok args =>
    match ← Proc.fork (simpleChild args) with
    | .error e => return .error (.fork e)
    | .ok pid =>
      Proc.log ⟨.debug, source, Text.lit "spawned",
        [Log.Record.count "pid" pid, Log.Record.field "command" (program args)]⟩
      Signals.guarded (waitFor pid)
      return .ok ()

/-- The child of the first stage: its output is the write end. -/
def writerChild (args : List Text) (readEnd writeEnd : Nat) : Proc Fate := do
  Signals.resetForChild
  Proc.close readEnd
  let saved ← saveOutput
  Proc.duplicateTo writeEnd stdout
  Proc.close writeEnd
  startOr args (restoreOutput saved) (stageDiagnostic 1 args)

/-- The child of the second stage: its input is the read end. -/
def readerChild (args : List Text) (readEnd writeEnd : Nat) : Proc Fate := do
  Signals.resetForChild
  Proc.close writeEnd
  Proc.duplicateTo readEnd stdin
  Proc.close readEnd
  startOr args (pure ()) (stageDiagnostic 2 args)

/-- Closes both ends of a pipe. -/
def closeEnds (readEnd writeEnd : Nat) : Proc Unit := do
  Proc.close readEnd
  Proc.close writeEnd

/-- Runs two stages over a pipe that is already made. -/
def runStages (writer reader : List Text) (readEnd writeEnd : Nat) :
    Proc (Except ShellError Unit) := do
  match ← Proc.fork (writerChild writer readEnd writeEnd) with
  | .error e =>
    closeEnds readEnd writeEnd
    return .error (.fork e)
  | .ok writerPid =>
    match ← Proc.fork (readerChild reader readEnd writeEnd) with
    | .error e =>
      closeEnds readEnd writeEnd
      -- The writer has started; it ends, writing into a pipe that nobody reads.
      Signals.guarded (waitFor writerPid)
      return .error (.fork e)
    | .ok readerPid =>
      closeEnds readEnd writeEnd
      -- The reader sees the end of its input only once no process here holds the write end.
      Proc.log ⟨.debug, source, Text.lit "pipeline spawned",
        [Log.Record.count "writer" writerPid, Log.Record.count "reader" readerPid]⟩
      Signals.guarded do
        waitFor writerPid
        waitFor readerPid
      return .ok ()

/-- Runs two commands, the output of the first being the input of the second. -/
def runPipeline (left right : ArgVector) : Proc (Except ShellError Unit) := do
  match argv left with
  | .error e => return .error e
  | .ok writer =>
    match argv right with
    | .error e => return .error e
    | .ok reader =>
      -- Both lists are checked before the pipe is made, so an error leaves nothing open.
      match ← Proc.pipe with
      | .error e => return .error (.pipe e)
      | .ok (readEnd, writeEnd) => runStages writer reader readEnd writeEnd

/-- How a target is opened. -/
def openMode : RedirectMode → OpenMode
  | .truncate => .truncating
  | .append => .appending

/-- The child of a redirection: its output is the target. -/
def redirectChild (args : List Text) (target : Text) (mode : RedirectMode) : Proc Fate := do
  Signals.resetForChild
  let saved ← saveOutput
  match ← Proc.openFile target.bytes (openMode mode) with
  | .error _ => report (openDiagnostic target)
  | .ok fd =>
    Proc.duplicateTo fd stdout
    Proc.close fd
    startOr args (restoreOutput saved) (redirectDiagnostic args)

/-- The name of a mode in the log. -/
def modeName : RedirectMode → Text
  | .truncate => Text.lit "Truncate"
  | .append => Text.lit "Append"

/-- Runs one command with its output sent to a target. -/
def runRedirect (v : ArgVector) (target : Text) (mode : RedirectMode) :
    Proc (Except ShellError Unit) := do
  match argv v with
  | .error e => return .error e
  | .ok args =>
    match withoutNul target with
    | .error e => return .error e
    | .ok target =>
      match ← Proc.fork (redirectChild args target mode) with
      | .error e => return .error (.fork e)
      | .ok pid =>
        Proc.log ⟨.debug, source, Text.lit "spawned with redirection",
          [Log.Record.count "pid" pid, Log.Record.field "command" (program args),
            Log.Record.quoted "target" target, Log.Record.field "mode" (modeName mode)]⟩
        Signals.guarded (waitFor pid)
        return .ok ()

/-- Becomes a program. On failure the shell goes on as before. -/
def replaceImage (v : ArgVector) : Proc (Except ShellError Image) := do
  match argv v with
  | .error e => return .error e
  | .ok args =>
    -- The new program must find the signal actions as a child finds them.
    Signals.resetForChild
    match ← start args with
    | .ok image => return .ok image
    | .error e =>
      match ← Signals.resume with
      | .ok () => pure ()
      | .error refused => Proc.log ⟨.debug, source, refused.message, []⟩
      return .error (.ofExec (program args) e)

end LineShell.Execution
