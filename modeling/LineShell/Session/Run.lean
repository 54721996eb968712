import LineShell.Session.Basic
import LineShell.Session.CommandLine
/-!
# A whole run

From the command line to the exit code: configuration, log, source of lines, the shell itself,
interrupts, startup lines, and then the lines of the source. What cannot be set up ends the run with
a report before any line is run; a broken configuration or log does not.
-/

namespace LineShell.Session

/-- The variable that overrides the configured log filter. -/
def logVariable : Text := Text.lit "BOSH_LOG"

/-- How a run ends. -/
inductive Ending where
  | exited (code : Nat)
  /-- The shell has become another program. -/
  | replaced (image : Image)
  deriving DecidableEq, Repr

/-- What cannot be set up. -/
inductive SetupError where
  | script (path : Bytes) (source : IoError)
  | shell (source : ShellError)
  | interrupts (source : ShellError)
  deriving DecidableEq, Repr

namespace SetupError

/-- The call behind a shell error, when there is one. -/
def innermost : ShellError → List Text
  | .workingDir e | .fork e | .pipe e | .signal e => [e.message]
  | .changeDir _ e => [e.message]
  | .execFailed _ e => [e.message]
  | _ => []

/-- The causes, from the outermost on. -/
def causes : SetupError → List Text
  | script _ source => [source.message]
  | shell source | interrupts source => source.message :: innermost source

/-- What was being set up. -/
def context : SetupError → Text
  | script path _ => Text.lit "cannot open script " ++ path.text
  | shell _ => Text.lit "cannot start shell"
  | interrupts _ => Text.lit "cannot set up interrupt handling"

/-- The lines of the causes; several are numbered. -/
def causeLines (e : SetupError) : Text :=
  match e.causes with
  | [one] => Text.lit "    " ++ one ++ ['\n']
  | many => many.zipIdx.flatMap (fun c =>
      Text.lit "    " ++ Text.ofNat c.2 ++ Text.lit ": " ++ c.1 ++ ['\n'])

/-- The whole report. -/
def report (e : SetupError) : Text :=
  Text.lit "Error: " ++ e.context ++ Text.lit "\n\nCaused by:\n" ++ e.causeLines

end SetupError

/-- The filter that the first of some texts writes; a malformed text gives way to the next, and
behind the last one come warnings. A text that is cut inside a character gives no filter. -/
def firstFilter? : List Text → Option Log.Filter
  | [] => some (.upTo .warn)
  | written :: rest =>
    match Log.Filter.parse written with
    | .ok filter => some filter
    | .error .malformed => firstFilter? rest
    | .error .splitCharacter => none

/-- The filter of the log: from the variable, else from the configuration, else warnings. -/
def logFilter? (env : Environment) (configured : Text) : Option Log.Filter :=
  firstFilter? ((Environment.text? env logVariable).toList ++ [configured])

/-- The time that log records bear; the machine has no clock. -/
def logTime : Text := Text.lit "2025-01-01T00:00:00.000000Z"

/-- Opens the log behind a filter. Where that fails records go to the error output. -/
def openLog (c : Configuration) (filter : Log.Filter) : Proc Unit := do
  let _ ← Proc.call (Call.withPath ((Path.parent? c.logFile).getD []) Call.makeDirectories)
  -- A directory that could not be made shows when the file is opened.
  let mode : OpenMode := { OpenMode.appending with closeOnExec := true }
  let opened ← Proc.call (Call.withPath c.logFile (Call.openFile · mode))
  let descriptor := match opened with
    | .ok fd => fd
    | .error _ => stderr
  modify fun w => { w with log := some ⟨filter, descriptor, logTime⟩ }

/-- Whether the input is a terminal. -/
def inputIsTerminal : Proc Bool := do
  let w ← get
  match Table.get? 0 w.self.descriptors with
  | none => return false
  | some h =>
    match w.machine.description? h.description with
    | some d => return d.channel == .terminal
    | none => return false

/-- Opens a script. -/
def openScript (path : Bytes) : Proc (Except SetupError Source) := do
  let mode : OpenMode := { OpenMode.reading with closeOnExec := true }
  match ← Proc.call (Call.withPath path (Call.openFile · mode)) with
  | .ok fd => return .ok (.script fd [])
  | .error e => return .error (.script path e)

/-- Picks the source of lines: a given line, a script, the terminal, or the input. -/
def openSource (cmd : CommandLine) (c : Configuration) (interactive : Bool)
    (entries : List Entry) : Proc (Except SetupError Source) := do
  match cmd.command, cmd.script with
  | some line, _ => return .ok (.oneShot (some line))
  | none, some path => openScript path.bytes
  | none, none =>
    if interactive then do
      return .ok (.terminal entries (← History.start c.historySize c.historyFile) false)
    else return .ok (.script 0 [])

/-- What the shell writes when a session at the terminal begins. -/
def greeting : Text := Text.lit "\nWelcome to Bosh, a minimal bash-like shell.\n\n"

/-- Where the program of the shell lies. -/
def programPath : Bytes := bytesOf "/usr/local/bin/bosh"

/-- Makes the shell, publishes it and takes care of interrupts. -/
def openShell (maxArgs : Nat) : Proc (Except SetupError Shell) := do
  match ← Shell.new maxArgs with
  | .error e => return .error (.shell e)
  | .ok shell =>
    Shell.publish programPath
    match ← Signals.startup with
    | .error e => return .error (.interrupts e)
    | .ok () => return .ok shell

/-- A record of the session itself. -/
def sessionRecord (message : String) (fields : List Log.Field) : Log.Record :=
  ⟨.info, Text.lit "bosh", message.toList, fields⟩

/-- Runs the startup lines and then the source. Returns how it ended, and the source as it was
left. -/
def converse (c : Configuration) (limit : Nat) (source : Source) :
    StateT Shell Proc (Ending × Source) := do
  match ← runStartup c.startup with
  | .replaced image => return (.replaced image, source)
  | .exit => return (.exited 0, source)
  | .proceed =>
    match ← repl limit source with
    | (.replaced image, source) => return (.replaced image, source)
    | (_, source) =>
      (Proc.log (sessionRecord "session ended" []) : Proc Unit)
      return (.exited 0, source)

/-- A session with its settings and its log. Returns how it ended and how many entries of the
terminal were not read. -/
def runConfigured (cmd : CommandLine) (c : Configuration) (limit : Nat) (entries : List Entry) :
    Proc (Ending × Nat) := do
  -- A terminal counts only when neither a line nor a script is given.
  let interactive := cmd.command.isNone && cmd.script.isNone && (← inputIsTerminal)
  match ← openSource cmd c interactive entries with
  | .error e => fail e entries.length
  | .ok source =>
    match ← openShell c.maxArgs with
    | .error e =>
      source.finish
      fail e source.unread
    | .ok shell =>
      Proc.log (sessionRecord "session started"
        [Log.Record.field "interactive" (if interactive then Text.lit "true" else Text.lit "false"),
          Log.Record.field "cwd" shell.cwd.text])
      if interactive && c.greeting then Proc.write 1 greeting
      let ((ending, source), _) ← (converse c limit source).run shell
      match ending with
      -- The history of a shell that became another program is lost with it.
      | .replaced _ => pure ()
      | .exited _ => source.finish
      return (ending, if interactive then source.unread else entries.length)
where
  /-- Reports what could not be set up. -/
  fail (e : SetupError) (unread : Nat) : Proc (Ending × Nat) := do
    Proc.write stderr e.report
    return (.exited 1, unread)

/-- The exit code of a run that breaks off without a report of its own. -/
def brokenOff : Nat := 101

/-- A session behind a command line. -/
def run (cmd : CommandLine) (limit : Nat) (entries : List Entry) : Proc (Ending × Nat) := do
  let c ← Configuration.init Toml.Document.ofText (cmd.config.map Text.bytes)
  match logFilter? (← Proc.self).environment c.logLevel with
  | none => return (.exited brokenOff, entries.length)
  | some filter =>
    openLog c filter
    runConfigured cmd c limit entries

/-- The whole program: refused command lines are answered at once. -/
def program (words : List Text) (limit : Nat) (entries : List Entry) : Proc (Ending × Nat) := do
  match CommandLine.parse words with
  | .ok cmd => run cmd limit entries
  | .error refusal =>
    if refusal = .help then
      Proc.write 1 refusal.message
      return (.exited 0, entries.length)
    else
      Proc.write stderr refusal.message
      return (.exited 1, entries.length)

/-- The status with which the process ends: an image that has replaced the shell runs to its end. -/
def status (ending : Ending) : Proc Status := do
  match ending with
  | .exited code => return .exited code
  | .replaced image => Proc.call ((← get).userland image)

end LineShell.Session
