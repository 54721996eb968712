import LineShell.Log.Record
import LineShell.Machine.Directories
import LineShell.Machine.Exec
/-!
# Processes that run each other

A *world* is a machine seen from the process whose code runs, together with the children of that
process, the programs that can run, the directories of the user, and the conditions under which
calls fail. `Proc` is a computation of that process.

* `fork` runs the code of the child at once, up to its start of a program or its end; the program
  itself runs when its parent waits for it. So a parent that waits for the writer of a pipe before
  the reader lets them run in this order.
* Every call that may be refused from outside goes through `attempt`: `faults` says for each kind
  of call, and for how many of the kind came before, whether it fails.
* `trace` keeps what was asked of the machine, with the caller, and at a wait its children and the
  machine too, as they were at that moment.
-/

namespace LineShell

/-- The kinds of calls that conditions outside the machine may let fail. -/
inductive CallKind where
  | fork
  | pipe
  | signalAction
  | wait
  | exec
  | openFile
  | duplicate
  | changeDirectory
  | workingDirectory
  deriving DecidableEq, Repr

/-- What has become of a child. -/
inductive Fate where
  | running (image : Image)
  | ended (status : Status)
  deriving DecidableEq, Repr

/-- A child that has not been waited for. -/
structure Child where
  process : Process
  fate : Fate
  deriving DecidableEq, Repr

/-- Something that was asked of the machine. -/
inductive Event where
  | forked (pid : Nat)
  /-- The program of the child that is waited for starts on the machine. -/
  | waited (pid : Nat) (caller : Process) (children : List Child) (machine : Machine)
  | polled (found : Option Nat) (caller : Process)
  | started (argv : List Text) (caller : Process) (result : Except Errno Image)
  | opened (path : Bytes) (result : Except Errno Nat)
  | piped (result : Except Errno (Nat × Nat))
  deriving Repr

/-- What programs do: from the context in which one starts to its end. -/
abbrev Userland := Image → Call Status

/-- A machine seen from one process, with its children and the conditions for calls. -/
structure World extends Context where
  children : List Child
  nextPid : Nat
  userland : Userland
  directories : Directories
  faults : CallKind → Nat → Option Errno
  /-- Calls made so far that could have been refused, the last one first. -/
  calls : List CallKind
  /-- The children that end by themselves right before the n-th poll. -/
  endings : Nat → List Nat
  /-- Polls made so far. -/
  polls : Nat
  /-- What was asked of the machine, the last first. -/
  trace : List Event
  log : Option Log.Sink

/-- A computation of a process that can have children. -/
abbrev Proc := StateM World

namespace World

/-- A child still holds its descriptors while it runs. -/
def isRunning (c : Child) : Bool :=
  match c.fate with
  | .running _ => true
  | .ended _ => false

/-- The processes that hold descriptors: this one and its running children. -/
def holders (w : World) : List Process :=
  w.self :: (w.children.filter isRunning).map Child.process

/-- Whether a process holds a read end of a pipe. -/
def holdsReader (m : Machine) (p : Nat) (process : Process) : Bool :=
  process.descriptors.any (fun e =>
    match m.description? e.2.description with
    | some d => d.channel == .pipeRead p
    | none => false)

/-- The machine with every pipe knowing whether it still has a reader. -/
def withReaders (w : World) : Machine :=
  { w.machine with pipes := w.machine.pipes.mapIdx (fun p pipe =>
      { pipe with hasReader := w.holders.any (holdsReader w.machine p) }) }

/-- Lets a running child run to its end. -/
def finish (w : World) (c : Child) : World × Child :=
  match c.fate with
  | .ended _ => (w, c)
  | .running image =>
    let (status, after) := (w.userland image).run ⟨c.process, w.withReaders⟩
    ({ w with machine := after.machine }, { process := c.process, fate := .ended status })

/-- The child with a number. -/
def child? (w : World) (pid : Nat) : Option Child :=
  w.children.find? (fun c => c.process.pid == pid)

/-- Replaces the child of the same number. -/
def setChild (w : World) (c : Child) : World :=
  { w with children := w.children.map (fun d => if d.process.pid == c.process.pid then c else d) }

/-- Takes a child away. -/
def dropChild (w : World) (pid : Nat) : World :=
  { w with children := w.children.filter (fun c => c.process.pid != pid) }

/-- Lets the child of a number run to its end, if there is one. -/
def finishPid (w : World) (pid : Nat) : World :=
  match w.child? pid with
  | none => w
  | some c => let (w, c) := w.finish c; w.setChild c

/-- Whether some child has ended and was not waited for. -/
def hasEnded (w : World) : Bool := w.children.any (fun c => !isRunning c)

end World

namespace Proc

/-- A call that cannot be refused from outside. -/
def call {α : Type} (act : Call α) : Proc α := fun w =>
  let (a, c) := act.run w.toContext
  (a, { w with toContext := c })

/-- Notes what was asked of the machine. -/
def note (e : Event) : Proc Unit := modify fun w => { w with trace := e :: w.trace }

/-- A call that the conditions may refuse; a refused call changes nothing. -/
def attempt {α : Type} (kind : CallKind) (act : Proc (Except Errno α)) : Proc (Except Errno α) := do
  let w ← get
  set { w with calls := kind :: w.calls }
  -- Refused calls count too.
  match w.faults kind (w.calls.count kind) with
  | some e => return .error e
  | none => act

/-- The process whose code runs. -/
def self : Proc Process := return (← get).self

/-- Where the directories of the user are. -/
def directories : Proc Directories := return (← get).directories

/-- Writes a log record, if there is a log that shows it. -/
def log (record : Log.Record) : Proc Unit := do
  match (← get).log with
  | none => pure ()
  | some sink =>
    if record.isShownBy sink.filter then
      let _ ← call (Call.write sink.descriptor (record.line sink.time).bytes)
    else pure ()

/-- Writes to a number, whatever becomes of it. -/
def write (fd : Nat) (text : Text) : Proc Unit := do
  let _ ← call (Call.write fd text.bytes)

/-- Opens a path. -/
def openFile (path : Bytes) (mode : OpenMode) : Proc (Except Errno Nat) := do
  let r ← attempt .openFile (call (Call.openFile path mode))
  note (.opened path r)
  return r

/-- Makes a pipe. -/
def pipe : Proc (Except Errno (Nat × Nat)) := do
  let r ← attempt .pipe (call Call.pipe)
  note (.piped r)
  return r

/-- A further number for what is behind an open one. -/
def duplicate (fd : Nat) (closeOnExec : Bool) : Proc (Except Errno Nat) :=
  attempt .duplicate (call (Call.duplicate fd closeOnExec))

/-- Makes a number lead to where another one leads. -/
def duplicateTo (fd target : Nat) : Proc Unit := do
  let _ ← call (Call.duplicateTo fd target)

/-- Closes a number. -/
def close (fd : Nat) : Proc Unit := call (Call.close fd)

/-- Moves to a directory. -/
def changeDirectory (path : Bytes) : Proc (Except Errno Unit) :=
  attempt .changeDirectory (call (Call.changeDirectory path))

/-- The path of the working directory. -/
def workingDirectory : Proc (Except Errno Bytes) :=
  attempt .workingDirectory (call Call.workingDirectory)

/-- Starts a program in this process. Returns what will run, or why the start failed. -/
def exec (argv : List Text) : Proc (Except Errno Image) := do
  let caller ← self
  let words := argv.map Text.bytes
  let r ← attempt .exec (call (Call.exec (words.head?.getD []) words))
  note (.started argv caller r)
  return r

/-- Makes a child that runs `body` up to its fate. Returns the number of the child. -/
def fork (body : Proc Fate) : Proc (Except Errno Nat) :=
  attempt .fork do
    let w ← get
    let parent := w.self
    let pid := w.nextPid
    set { w with
      self := { parent with pid := pid, parent := parent.pid }
      nextPid := pid + 1
      trace := .forked pid :: w.trace }
    -- The child runs as this process; what it does to itself ends with it.
    let fate ← body
    modify fun w => { w with
      self := parent
      children := w.children ++ [⟨w.self, fate⟩] }
    return .ok pid

/-- Waits until a child has ended, and takes it away. -/
def waitFor (pid : Nat) : Proc (Except Errno Status) := do
  let w ← get
  note (.waited pid w.self w.children w.withReaders)
  modify fun w => w.finishPid pid
  -- The child has ended and is gone, even where the wait itself is refused.
  let ended := (← get).child? pid
  modify fun w => w.dropChild pid
  attempt .wait (match ended with
    | some ⟨_, .ended status⟩ => return .ok status
    | _ => return .error .noChild)

/-- Takes away one child that has ended, without waiting. -/
def poll : Proc (Option Nat) := do
  modify fun w => { (w.endings w.polls).foldl World.finishPid w with polls := w.polls + 1 }
  let w ← get
  let found := (w.children.find? (fun c => !World.isRunning c)).map (fun c => c.process.pid)
  note (.polled found w.self)
  match found with
  | some pid => modify fun w => w.dropChild pid
  | none => pure ()
  return found

end Proc

end LineShell
